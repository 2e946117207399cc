import SwbtDaemon.Bridge.UsbAdapterLocation

/-!
# Launch options

`swbt_daemon_launch_options_parse` of `daemon/launch_options.c` on the arguments of a program. An
argument is its text, or `none` for a `NULL` pointer.
-/

namespace Swbt

namespace LaunchOptions

open CString

/-- `swbt_daemon_launch_options_result_t`. -/
inductive Result where
  | ok
  | invalidArgument
  | missingValue
  | unknownOption
deriving DecidableEq, Repr

/-- `swbt_daemon_launch_backend_t`. -/
inductive Backend where
  | production
  | noop
deriving DecidableEq, Repr

end LaunchOptions

/-- `swbt_daemon_launch_options_t`, with the texts that its pointers point to. -/
structure LaunchOptions where
  backend : LaunchOptions.Backend
  configPath : Option (List UInt8)
  linkKeyDbPath : Option (List UInt8)
  tracePath : Option (List UInt8)
  hciDumpPath : Option (List UInt8)
  crashDumpPath : Option (List UInt8)
  adapterLocation : Option (List UInt8)
deriving DecidableEq, Repr

namespace LaunchOptions

open CString

/-- Options that are all zero. -/
def zero : LaunchOptions := ⟨.production, none, none, none, none, none, none⟩

/-- `swbt_daemon_launch_options_value_after_equals`. -/
def valueAfterEquals (argument start : List UInt8) : Option (List UInt8) :=
  if !start.isPrefixOf argument then none else some (argument.drop start.length)

/-- `swbt_daemon_launch_options_parse_backend`. -/
def parseBackend (value : List UInt8) : Option Backend :=
  if value == bytes "production" then some .production
  else if value == bytes "noop" then some .noop
  else none

/-- `swbt_daemon_launch_options_adapter_location_is_valid`. -/
def adapterLocationIsValid (value : List UInt8) : Bool :=
  (UsbAdapterLocation.parse value).1 == .ok

/-! ## What an option does with its value

The options with the value stored, `none` when the value is invalid. -/

def storeConfigPath (options : LaunchOptions) (value : List UInt8) : Option LaunchOptions :=
  some { options with configPath := some value }

def storeLinkKeyDbPath (options : LaunchOptions) (value : List UInt8) : Option LaunchOptions :=
  some { options with linkKeyDbPath := some value }

def storeTracePath (options : LaunchOptions) (value : List UInt8) : Option LaunchOptions :=
  some { options with tracePath := some value }

def storeHciDumpPath (options : LaunchOptions) (value : List UInt8) : Option LaunchOptions :=
  some { options with hciDumpPath := some value }

def storeCrashDumpPath (options : LaunchOptions) (value : List UInt8) : Option LaunchOptions :=
  some { options with crashDumpPath := some value }

def storeBackend (options : LaunchOptions) (value : List UInt8) : Option LaunchOptions :=
  match parseBackend value with
  | none => none
  | some backend => some { options with backend := backend }

def storeAdapterLocation (options : LaunchOptions) (value : List UInt8) : Option LaunchOptions :=
  if !adapterLocationIsValid value then none
  else some { options with adapterLocation := some value }

/-! ## The loop -/

/-- How a round of the loop ends. -/
inductive Turn where
  /-- The parser returns. -/
  | stop (result : Result)
  /-- `continue`. -/
  | next (options : LaunchOptions)
  /-- `++index; continue`. -/
  | afterNext (options : LaunchOptions)

/-- A branch for the form with two arguments: the value is the first of the arguments `rest`. -/
def twoArguments (store : LaunchOptions → List UInt8 → Option LaunchOptions)
    (options : LaunchOptions) (rest : List (Option (List UInt8))) : Turn :=
  match rest with
  | some (c :: cs) :: _ =>
    match store options (c :: cs) with
    | none => .stop .invalidArgument
    | some options => .afterNext options
  | _ => .stop .missingValue

/-- A branch for the form with one argument. -/
def oneArgument (store : LaunchOptions → List UInt8 → Option LaunchOptions)
    (options : LaunchOptions) (value : List UInt8) : Turn :=
  if value = [] then .stop .missingValue
  else
    match store options value with
    | none => .stop .invalidArgument
    | some options => .next options

/-- A round of the loop at an argument that is not `NULL`, with the arguments `rest` behind it. -/
def turn (options : LaunchOptions) (argument : List UInt8) (rest : List (Option (List UInt8))) :
    Turn :=
  if argument == bytes "--config" then twoArguments storeConfigPath options rest
  else
  match valueAfterEquals argument (bytes "--config=") with
  | some configValue => oneArgument storeConfigPath options configValue
  | none =>
  if argument == bytes "--link-key-db" then twoArguments storeLinkKeyDbPath options rest
  else
  match valueAfterEquals argument (bytes "--link-key-db=") with
  | some linkKeyDbValue => oneArgument storeLinkKeyDbPath options linkKeyDbValue
  | none =>
  if argument == bytes "--trace-path" then twoArguments storeTracePath options rest
  else
  match valueAfterEquals argument (bytes "--trace-path=") with
  | some traceValue => oneArgument storeTracePath options traceValue
  | none =>
  if argument == bytes "--hci-dump-path" then twoArguments storeHciDumpPath options rest
  else
  match valueAfterEquals argument (bytes "--hci-dump-path=") with
  | some hciDumpValue => oneArgument storeHciDumpPath options hciDumpValue
  | none =>
  if argument == bytes "--crash-dump-path" then twoArguments storeCrashDumpPath options rest
  else
  match valueAfterEquals argument (bytes "--crash-dump-path=") with
  | some crashDumpValue => oneArgument storeCrashDumpPath options crashDumpValue
  | none =>
  if argument == bytes "--backend" then twoArguments storeBackend options rest
  else
  match valueAfterEquals argument (bytes "--backend=") with
  | some backendValue => oneArgument storeBackend options backendValue
  | none =>
  if argument == bytes "--adapter-location" then twoArguments storeAdapterLocation options rest
  else
  match valueAfterEquals argument (bytes "--adapter-location=") with
  | some adapterLocationValue => oneArgument storeAdapterLocation options adapterLocationValue
  | none => .stop .unknownOption

/-- The loop of `swbt_daemon_launch_options_parse` over the arguments that are left. -/
def parseLoop (options : LaunchOptions) : List (Option (List UInt8)) → Result × LaunchOptions
  | [] => (.ok, options)
  | none :: _ => (.invalidArgument, options)
  | some argument :: rest =>
    match turn options argument rest with
    | .stop result => (result, options)
    | .next options => parseLoop options rest
    | .afterNext options =>
      match rest with
      | [] => (.ok, options)
      | _ :: rest => parseLoop options rest

/-- `swbt_daemon_launch_options_parse`: the result and the options. The first argument is the name
of the program. -/
def parse (argv : List (Option (List UInt8))) : Result × LaunchOptions := parseLoop zero argv.tail

end LaunchOptions

end Swbt
