import SwbtDaemon.Daemon.LaunchOptions
import SwbtDaemon.Lib.Settings

/-!
# The two forms of a launch option

Every round of the loop is one of two: the option is written in two arguments or in one. Both give
the same value to the same option (`give`), so that a list of arguments does what the settings that
it spells do, and the last setting of each option wins.
-/

namespace Swbt

namespace LaunchOptions

open CString Settings

/-- The options that take a value. -/
inductive ValueOption where
  | config
  | linkKeyDb
  | tracePath
  | hciDumpPath
  | crashDumpPath
  | backend
  | adapterLocation
deriving DecidableEq, Repr

namespace ValueOption

/-- How the option is written. -/
def name : ValueOption → List UInt8
  | .config => bytes "--config"
  | .linkKeyDb => bytes "--link-key-db"
  | .tracePath => bytes "--trace-path"
  | .hciDumpPath => bytes "--hci-dump-path"
  | .crashDumpPath => bytes "--crash-dump-path"
  | .backend => bytes "--backend"
  | .adapterLocation => bytes "--adapter-location"

/-- What the option does with its value. -/
def store : ValueOption → LaunchOptions → List UInt8 → Option LaunchOptions
  | .config => storeConfigPath
  | .linkKeyDb => storeLinkKeyDbPath
  | .tracePath => storeTracePath
  | .hciDumpPath => storeHciDumpPath
  | .crashDumpPath => storeCrashDumpPath
  | .backend => storeBackend
  | .adapterLocation => storeAdapterLocation

/-- The option in the form `--opt value`. -/
def separate (option : ValueOption) (value : List UInt8) : List (Option (List UInt8)) :=
  [some option.name, some value]

/-- The option in the form `--opt=value`. -/
def joined (option : ValueOption) (value : List UInt8) : List (Option (List UInt8)) :=
  [some (option.name ++ 0x3D :: value)]

end ValueOption

open ValueOption

/-! ## One option -/

theorem turn_name (options : LaunchOptions) (option : ValueOption)
    (rest : List (Option (List UInt8))) :
    turn options option.name rest = twoArguments option.store options rest := by
  cases option <;> rfl

theorem turn_name_equals (options : LaunchOptions) (option : ValueOption) (value : List UInt8)
    (rest : List (Option (List UInt8))) :
    turn options (option.name ++ 0x3D :: value) rest = oneArgument option.store options value := by
  cases option <;> rfl

theorem exists_of_valueAfterEquals {argument value : List UInt8} {option : ValueOption}
    (h : valueAfterEquals argument (option.name ++ [0x3D]) = some value) :
    argument = option.name ++ 0x3D :: value := by
  unfold valueAfterEquals at h
  split at h
  · cases h
  · next hprefix =>
    rw [Bool.not_eq_true', Bool.not_eq_false, List.isPrefixOf_iff_prefix] at hprefix
    have hsplit := List.prefix_iff_eq_append.mp hprefix
    rw [Option.some.inj h, List.append_assoc] at hsplit
    exact hsplit.symm

/-- An argument is the name of an option, a name with a value, or unknown. -/
theorem turn_cases (argument : List UInt8) :
    (∃ option : ValueOption, argument = option.name) ∨
    (∃ (option : ValueOption) (value : List UInt8), argument = option.name ++ 0x3D :: value) ∨
    ∀ options rest, turn options argument rest = .stop .unknownOption := by
  by_cases hname : ∃ option : ValueOption, argument = option.name
  · exact .inl hname
  by_cases hvalue : ∃ (option : ValueOption) (value : List UInt8),
      valueAfterEquals argument (option.name ++ [0x3D]) = some value
  · obtain ⟨option, value, h⟩ := hvalue
    exact .inr (.inl ⟨option, value, exists_of_valueAfterEquals h⟩)
  refine .inr (.inr fun options rest => ?_)
  have hne : ∀ option : ValueOption, (argument == option.name) = false := by
    intro option
    rw [beq_eq_false_iff_ne]
    exact fun h => hname ⟨option, h⟩
  have hnone : ∀ option : ValueOption, valueAfterEquals argument (option.name ++ [0x3D]) = none := by
    intro option
    rw [Option.eq_none_iff_forall_ne_some]
    exact fun value h => hvalue ⟨option, value, h⟩
  simp only [turn, Bool.false_eq_true, if_false,
    show (argument == bytes "--config") = false from hne .config,
    show valueAfterEquals argument (bytes "--config=") = none from hnone .config,
    show (argument == bytes "--link-key-db") = false from hne .linkKeyDb,
    show valueAfterEquals argument (bytes "--link-key-db=") = none from hnone .linkKeyDb,
    show (argument == bytes "--trace-path") = false from hne .tracePath,
    show valueAfterEquals argument (bytes "--trace-path=") = none from hnone .tracePath,
    show (argument == bytes "--hci-dump-path") = false from hne .hciDumpPath,
    show valueAfterEquals argument (bytes "--hci-dump-path=") = none from hnone .hciDumpPath,
    show (argument == bytes "--crash-dump-path") = false from hne .crashDumpPath,
    show valueAfterEquals argument (bytes "--crash-dump-path=") = none from hnone .crashDumpPath,
    show (argument == bytes "--backend") = false from hne .backend,
    show valueAfterEquals argument (bytes "--backend=") = none from hnone .backend,
    show (argument == bytes "--adapter-location") = false from hne .adapterLocation,
    show valueAfterEquals argument (bytes "--adapter-location=") = none from
      hnone .adapterLocation]

/-! ## Giving an option its value -/

/-- What both forms of an option do: the options afterwards, or the error. -/
def give (option : ValueOption) (options : LaunchOptions) (value : List UInt8) :
    Except Result LaunchOptions :=
  if value = [] then .error .missingValue
  else
    match option.store options value with
    | none => .error .invalidArgument
    | some after => .ok after

/-- The parser goes on over the arguments `rest`, or returns the error. -/
def goOn (options : LaunchOptions) (given : Except Result LaunchOptions)
    (rest : List (Option (List UInt8))) : Result × LaunchOptions :=
  match given with
  | .error result => (result, options)
  | .ok after => parseLoop after rest

theorem parseLoop_separate (option : ValueOption) (options : LaunchOptions) (value : List UInt8)
    (rest : List (Option (List UInt8))) :
    parseLoop options (option.separate value ++ rest) =
      goOn options (give option options value) rest := by
  change parseLoop options (some option.name :: some value :: rest) = _
  rw [parseLoop, turn_name, twoArguments.eq_def, give]
  cases value with
  | nil => rfl
  | cons c cs =>
    dsimp only
    rw [if_neg (by simp)]
    cases option.store options (c :: cs) <;> rfl

theorem parseLoop_joined (option : ValueOption) (options : LaunchOptions) (value : List UInt8)
    (rest : List (Option (List UInt8))) :
    parseLoop options (option.joined value ++ rest) =
      goOn options (give option options value) rest := by
  change parseLoop options (some (option.name ++ 0x3D :: value) :: rest) = _
  rw [parseLoop, turn_name_equals, oneArgument, give]
  by_cases hvalue : value = []
  · rw [if_pos hvalue, if_pos hvalue]
    rfl
  · rw [if_neg hvalue, if_neg hvalue]
    cases option.store options value <;> rfl

/-! ## The settings that arguments spell -/

/-- A setting of an option. -/
abbrev Setting := ValueOption × List UInt8

/-- The arguments spell the settings, each in one of its forms. -/
inductive Spelled : List (Option (List UInt8)) → List Setting → Prop
  | nil : Spelled [] []
  | separate (option : ValueOption) (value : List UInt8) {rest : List (Option (List UInt8))}
      {settings : List Setting} (hrest : Spelled rest settings) :
      Spelled (option.separate value ++ rest) ((option, value) :: settings)
  | joined (option : ValueOption) (value : List UInt8) {rest : List (Option (List UInt8))}
      {settings : List Setting} (hrest : Spelled rest settings) :
      Spelled (option.joined value ++ rest) ((option, value) :: settings)

/-- What settings do, one after the other. -/
def giveAll (options : LaunchOptions) : List Setting → Result × LaunchOptions
  | [] => (.ok, options)
  | (option, value) :: settings =>
    match give option options value with
    | .error result => (result, options)
    | .ok after => giveAll after settings

theorem give_ne_ok {option : ValueOption} {options : LaunchOptions} {value : List UInt8}
    {result : Result} (h : give option options value = .error result) : result ≠ .ok := by
  unfold give at h
  split at h
  · rw [← Except.error.inj h]
    decide
  · split at h
    · rw [← Except.error.inj h]
      decide
    · cases h

/-- The parser over `args` and `rest` behaves as settings do that are followed by `rest`. -/
def Follows (args : List (Option (List UInt8))) (settings : List Setting)
    (rest : List (Option (List UInt8))) : Prop :=
  ∀ options, parseLoop options (args ++ rest) =
    if (giveAll options settings).1 = .ok then parseLoop (giveAll options settings).2 rest
    else giveAll options settings

theorem goOn_eq {args rest : List (Option (List UInt8))} {settings : List Setting}
    (h : Follows args settings rest) (options : LaunchOptions) (option : ValueOption)
    (value : List UInt8) :
    goOn options (give option options value) (args ++ rest) =
      if (giveAll options ((option, value) :: settings)).1 = .ok then
        parseLoop (giveAll options ((option, value) :: settings)).2 rest
      else giveAll options ((option, value) :: settings) := by
  rw [giveAll]
  cases hgive : give option options value with
  | error result => exact (if_neg (give_ne_ok hgive)).symm
  | ok after => exact h after

/-- **Arguments do what their settings do.** -/
theorem Spelled.follows {args : List (Option (List UInt8))} {settings : List Setting}
    (h : Spelled args settings) (rest : List (Option (List UInt8))) :
    Follows args settings rest := by
  induction h with
  | nil => exact fun options => rfl
  | separate option value hrest ih =>
    intro options
    rw [List.append_assoc, parseLoop_separate, goOn_eq ih]
  | joined option value hrest ih =>
    intro options
    rw [List.append_assoc, parseLoop_joined, goOn_eq ih]

theorem Spelled.parseLoop_eq {args : List (Option (List UInt8))} {settings : List Setting}
    (h : Spelled args settings) (options : LaunchOptions) :
    parseLoop options args = giveAll options settings := by
  have happend := h.follows [] options
  rw [List.append_nil] at happend
  rw [happend]
  split
  · next hok => exact Prod.ext hok.symm rfl
  · rfl

theorem goOn_ok {options : LaunchOptions} {given : Except Result LaunchOptions}
    {rest : List (Option (List UInt8))} (hgiven : ∀ result, given = .error result → result ≠ .ok)
    (h : (goOn options given rest).1 = .ok) : ∃ after, (parseLoop after rest).1 = .ok := by
  cases given with
  | error result => exact absurd h (hgiven result rfl)
  | ok after => exact ⟨after, h⟩

/-- A name that is not followed by a value is an error. -/
theorem exists_value {options : LaunchOptions} {option : ValueOption}
    {rest : List (Option (List UInt8))}
    (h : (parseLoop options (some option.name :: rest)).1 = .ok) :
    ∃ value rest', rest = some value :: rest' := by
  rw [parseLoop, turn_name] at h
  rcases rest with _ | ⟨_ | value, rest⟩
  · cases h
  · cases h
  · exact ⟨value, rest, rfl⟩

/-- **Accepted arguments spell settings.** -/
theorem exists_spelled {args : List (Option (List UInt8))} {options : LaunchOptions}
    (h : (parseLoop options args).1 = .ok) : ∃ settings, Spelled args settings := by
  induction hlength : args.length using Nat.strong_induction_on generalizing args options with
  | _ n ih =>
    subst hlength
    rcases args with _ | ⟨_ | argument, rest⟩
    · exact ⟨[], .nil⟩
    · cases h
    · rcases turn_cases argument with ⟨option, rfl⟩ | ⟨option, value, rfl⟩ | hunknown
      · obtain ⟨value, rest, rfl⟩ := exists_value h
        rw [show some option.name :: some value :: rest = option.separate value ++ rest from rfl,
          parseLoop_separate] at h
        obtain ⟨after, hafter⟩ := goOn_ok (fun _ => give_ne_ok) h
        obtain ⟨settings, hrest⟩ := ih rest.length (by simp only [List.length_cons]; omega) hafter rfl
        exact ⟨_, .separate option value hrest⟩
      · rw [show some (option.name ++ 0x3D :: value) :: rest = option.joined value ++ rest from rfl,
          parseLoop_joined] at h
        obtain ⟨after, hafter⟩ := goOn_ok (fun _ => give_ne_ok) h
        obtain ⟨settings, hrest⟩ := ih rest.length (by simp only [List.length_cons]; omega) hafter rfl
        exact ⟨_, .joined option value hrest⟩
      · rw [parseLoop, hunknown] at h
        cases h

/-! ## The last setting wins -/

/-- The options that hold the values `values`. -/
def ofValues (values : ValueOption → Option (List UInt8)) : LaunchOptions where
  backend := ((values .backend).bind parseBackend).getD .production
  configPath := values .config
  linkKeyDbPath := values .linkKeyDb
  tracePath := values .tracePath
  hciDumpPath := values .hciDumpPath
  crashDumpPath := values .crashDumpPath
  adapterLocation := values .adapterLocation

/-- Whether an option takes a value that is not empty. -/
def accepts (option : ValueOption) (value : List UInt8) : Bool :=
  match option with
  | .backend => (parseBackend value).isSome
  | .adapterLocation => adapterLocationIsValid value
  | _ => true

theorem store_ofValues (option : ValueOption) (values : ValueOption → Option (List UInt8))
    (value : List UInt8) :
    option.store (ofValues values) value =
      if accepts option value then some (ofValues (Function.update values option (some value)))
      else none := by
  cases option with
  | backend =>
    cases hbackend : parseBackend value <;>
      simp [store, storeBackend, accepts, ofValues, hbackend]
  | adapterLocation =>
    cases hlocation : adapterLocationIsValid value <;>
      simp [store, storeAdapterLocation, accepts, ofValues, hlocation]
  | config => simp [store, storeConfigPath, accepts, ofValues]
  | linkKeyDb => simp [store, storeLinkKeyDbPath, accepts, ofValues]
  | tracePath => simp [store, storeTracePath, accepts, ofValues]
  | hciDumpPath => simp [store, storeHciDumpPath, accepts, ofValues]
  | crashDumpPath => simp [store, storeCrashDumpPath, accepts, ofValues]

/-- The setting is one that the parser takes. -/
def Taken (setting : Setting) : Prop := setting.2 ≠ [] ∧ accepts setting.1 setting.2 = true

/-- **One setting** overrides one value, or is an error. -/
theorem give_ofValues (option : ValueOption) (values : ValueOption → Option (List UInt8))
    (value : List UInt8) :
    (Taken (option, value) ∧ give option (ofValues values) value =
      .ok (ofValues (Function.update values option (some value)))) ∨
    (¬ Taken (option, value) ∧ ∃ result, give option (ofValues values) value = .error result) := by
  unfold give Taken
  rw [store_ofValues]
  by_cases hvalue : value = []
  · exact .inr ⟨fun h => h.1 hvalue, _, if_pos hvalue⟩
  · cases haccepts : accepts option value with
    | false => exact .inr ⟨fun h => Bool.false_ne_true h.2, .invalidArgument, by simp [hvalue]⟩
    | true => exact .inl ⟨⟨hvalue, rfl⟩, by simp [hvalue]⟩

/-- **The last setting of each option wins.** -/
theorem giveAll_ofValues {settings : List Setting} (h : ∀ setting ∈ settings, Taken setting)
    (values : ValueOption → Option (List UInt8)) :
    giveAll (ofValues values) settings = (.ok, ofValues (applyAll values settings)) := by
  induction settings generalizing values with
  | nil => rfl
  | cons setting settings ih =>
    obtain ⟨option, value⟩ := setting
    obtain ⟨htaken, hsettings⟩ := List.forall_mem_cons.mp h
    rcases give_ofValues option values value with ⟨-, hgive⟩ | ⟨hnot, -⟩
    · rw [giveAll, hgive]
      exact ih hsettings _
    · exact absurd htaken hnot

theorem taken_of_giveAll {settings : List Setting} {values : ValueOption → Option (List UInt8)}
    (h : (giveAll (ofValues values) settings).1 = .ok) : ∀ setting ∈ settings, Taken setting := by
  induction settings generalizing values with
  | nil => simp
  | cons setting settings ih =>
    obtain ⟨option, value⟩ := setting
    rw [giveAll] at h
    rcases give_ofValues option values value with ⟨htaken, hgive⟩ | ⟨-, result, hgive⟩
    · rw [hgive] at h
      exact List.forall_mem_cons.mpr ⟨htaken, ih h⟩
    · rw [hgive] at h
      exact absurd h (give_ne_ok hgive)

/-- What is left when settings of different options change their places. -/
def SameOrder (settings settings' : List Setting) : Prop :=
  ∀ option, (settings.filter fun setting => setting.1 = option) =
    settings'.filter fun setting => setting.1 = option

theorem SameOrder.mem {settings settings' : List Setting} (h : SameOrder settings settings')
    {setting : Setting} (hmem : setting ∈ settings') : setting ∈ settings := by
  have hfilter : setting ∈ settings'.filter fun other => other.1 = setting.1 :=
    List.mem_filter.mpr ⟨hmem, by simp⟩
  rw [← h setting.1] at hfilter
  exact List.mem_of_mem_filter hfilter

theorem zero_eq : zero = ofValues fun _ => none := rfl

theorem parse_of_taken {argv : List (Option (List UInt8))} {settings : List Setting}
    (h : Spelled argv.tail settings) (htaken : ∀ setting ∈ settings, Taken setting) :
    parse argv = (.ok, ofValues fun option => lastValue option settings) := by
  have hlast : applyAll (fun _ => none) settings = fun option => lastValue option settings := by
    funext option
    rw [applyAll_apply, Option.or_none]
  rw [parse, h.parseLoop_eq, zero_eq, giveAll_ofValues htaken, hlast]

theorem taken_of_parse {argv : List (Option (List UInt8))} {settings : List Setting}
    (h : Spelled argv.tail settings) (hok : (parse argv).1 = .ok) :
    ∀ setting ∈ settings, Taken setting := by
  rw [parse, h.parseLoop_eq, zero_eq] at hok
  exact taken_of_giveAll hok

/-- **The forms of the launch options.** Both forms of an option do the same in every context; in
accepted arguments the last setting of each option wins, whatever the order of the options. -/
theorem launchOptions_forms :
    (∀ (program : Option (List UInt8)) (args suffix : List (Option (List UInt8)))
      (option : ValueOption) (value : List UInt8), (parse (program :: args)).1 = .ok →
      parse (program :: args ++ option.separate value ++ suffix) =
        parse (program :: args ++ option.joined value ++ suffix)) ∧
    (∀ argv, (parse argv).1 = .ok →
      (∃ settings, Spelled argv.tail settings) ∧
      ∀ settings, Spelled argv.tail settings → (∀ setting ∈ settings, Taken setting) ∧
        (parse argv).2 = ofValues fun option => lastValue option settings) ∧
    (∀ argv argv' settings settings', Spelled argv.tail settings → Spelled argv'.tail settings' →
      SameOrder settings settings' → (parse argv).1 = .ok → parse argv' = parse argv) := by
  refine ⟨?_, ?_, ?_⟩
  · intro program args suffix option value hok
    obtain ⟨settings, hargs⟩ : ∃ settings, Spelled args settings := exists_spelled hok
    change parseLoop zero (args ++ option.separate value ++ suffix) =
      parseLoop zero (args ++ option.joined value ++ suffix)
    rw [List.append_assoc, List.append_assoc, hargs.follows, hargs.follows, parseLoop_separate,
      parseLoop_joined]
  · intro argv hok
    refine ⟨exists_spelled hok, fun settings hspelled => ?_⟩
    have htaken := taken_of_parse hspelled hok
    rw [parse_of_taken hspelled htaken]
    exact ⟨htaken, rfl⟩
  · intro argv argv' settings settings' hspelled hspelled' horder hok
    have htaken := taken_of_parse hspelled hok
    have hlast : (fun option => lastValue option settings') =
        fun option => lastValue option settings :=
      funext fun option => lastValue_congr (horder option).symm
    rw [parse_of_taken hspelled' fun setting hmem => htaken setting (horder.mem hmem),
      parse_of_taken hspelled htaken, hlast]

end LaunchOptions

end Swbt
