import SwbtDaemon.Daemon.Environment
import SwbtDaemon.Daemon.Proofs.ConfigProofs
import SwbtDaemon.Lib.Numerals

/-!
# The environment and the configuration file

A variable and the key of the same setting take the same numbers, except where `strtoul` wraps a
negative number around into the range of the setting.
-/

namespace Swbt

open CString ConfigFile

/-! ## The numbers of the environment -/

namespace Config

/-- A number that is read as one of 32 bits and then narrowed. -/
theorem narrowed {α : Type} {v maximum : Nat} (hmax : maximum ≤ 2 ^ 32 - 1) (f : UInt32 → α) :
    (match if v ≤ 2 ^ 32 - 1 then some v.toUInt32 else none with
      | none => none
      | some parsed => if parsed > maximum.toUInt32 then none else some (f parsed)) =
      if v ≤ maximum then some (f v.toUInt32) else none := by
  have hmaximum : maximum.toUInt32.toNat = maximum := by
    simp only [Nat.toUInt32, UInt32.toNat_ofNat']
    omega
  by_cases hv : v ≤ 2 ^ 32 - 1
  · have hvalue : v.toUInt32.toNat = v := by
      simp only [Nat.toUInt32, UInt32.toNat_ofNat']
      omega
    rw [if_pos hv]
    dsimp only
    by_cases hle : v ≤ maximum
    · rw [if_pos hle, if_neg]
      rw [gt_iff_lt, UInt32.lt_iff_toNat_lt, hmaximum, hvalue]
      omega
    · rw [if_neg hle, if_pos]
      rw [gt_iff_lt, UInt32.lt_iff_toNat_lt, hmaximum, hvalue]
      omega
  · rw [if_neg hv, if_neg (by omega)]

theorem narrowed_toUInt16 (v : Nat) :
    (match if v ≤ 2 ^ 32 - 1 then some v.toUInt32 else none with
      | none => none
      | some parsed => if parsed > 0xFFFF then none else some parsed.toUInt16) =
      if v ≤ 2 ^ 16 - 1 then some v.toUInt16 else none := by
  have hvalue : v.toUInt32.toUInt16 = v.toUInt16 := by simp [Nat.toUInt32, Nat.toUInt16]
  rw [← hvalue]
  exact narrowed (by decide) UInt32.toUInt16

theorem narrowed_toInt (v : Nat) :
    (match if v ≤ 2 ^ 32 - 1 then some v.toUInt32 else none with
      | none => none
      | some parsed => if parsed > 0x7FFFFFFF then none else some (parsed.toNat : Int)) =
      if v ≤ 2 ^ 31 - 1 then some (v : Int) else none := by
  refine (narrowed (by decide) fun parsed => (parsed.toNat : Int)).trans ?_
  show (if v ≤ 2 ^ 31 - 1 then some (v.toUInt32.toNat : Int) else none) = _
  by_cases hv : v ≤ 2 ^ 31 - 1
  · have hvalue : v.toUInt32.toNat = v := by
      simp only [Nat.toUInt32, UInt32.toNat_ofNat']
      omega
    rw [if_pos hv, if_pos hv, hvalue]
  · rw [if_neg hv, if_neg hv]

/-- The unsigned number that `strtoul` reads, unless it is out of range. -/
def readValue [Platform] (sign : Sign) (n : Nat) : Option Nat :=
  if n ≥ 2 ^ Platform.ulong.bits then none
  else if sign = .minus then some ((2 ^ Platform.ulong.bits - n) % 2 ^ Platform.ulong.bits)
  else some n

variable [Platform] {sign : Sign} {ds : List UInt8}

theorem parseU32_numeral (hds : Digits 10 ds) (hne : ds ≠ []) :
    parseU32 (sign.text ++ ds) = (readValue sign (number 10 ds)).bind fun v =>
      if v ≤ 2 ^ 32 - 1 then some v.toUInt32 else none := by
  have hread := strtoul10_numeral Platform.ulong.bits (List.forall_mem_nil _) sign hds hne
  rw [List.nil_append] at hread
  have htext : sign.text ++ ds ≠ [] := fun hnil => hne (List.append_eq_nil_iff.mp hnil).2
  have haccept : ∀ v : Nat, (if false = true ∨ ([] : List UInt8) ≠ [] ∨ v > 0xFFFFFFFF then none
      else some v.toUInt32) = if v ≤ 2 ^ 32 - 1 then some v.toUInt32 else none := by
    intro v
    by_cases hv : v ≤ 2 ^ 32 - 1
    · rw [if_pos hv, if_neg]
      rintro (hrange | hrest | hlarge)
      · cases hrange
      · exact hrest rfl
      · omega
    · rw [if_neg hv, if_pos (.inr (.inr (by omega)))]
  rw [parseU32, if_neg htext, hread, Sign.convert, readValue]
  by_cases hrange : number 10 ds ≥ 2 ^ Platform.ulong.bits
  · rw [if_pos hrange, if_pos hrange]
    exact if_pos (.inl rfl)
  · rw [if_neg hrange, if_neg hrange]
    by_cases hminus : sign = .minus
    · rw [if_pos hminus, if_pos hminus]
      exact haccept _
    · rw [if_neg hminus, if_neg hminus]
      exact haccept _

theorem parseU16_numeral (hds : Digits 10 ds) (hne : ds ≠ []) :
    parseU16 (sign.text ++ ds) = (readValue sign (number 10 ds)).bind fun v =>
      if v ≤ 2 ^ 16 - 1 then some v.toUInt16 else none := by
  rw [parseU16, parseU32_numeral hds hne]
  cases readValue sign (number 10 ds) with
  | none => rfl
  | some v => exact narrowed_toUInt16 v

theorem parseInt_numeral (hds : Digits 10 ds) (hne : ds ≠ []) :
    parseInt (sign.text ++ ds) = (readValue sign (number 10 ds)).bind fun v =>
      if v ≤ 2 ^ 31 - 1 then some (v : Int) else none := by
  rw [parseInt, parseU32_numeral hds hne]
  cases readValue sign (number 10 ds) with
  | none => rfl
  | some v => exact narrowed_toInt v

end Config

/-! ## A number for a setting -/

instance (config : Config) : Decidable (Checked config) :=
  decidable_of_iff (config.reportPeriodUs ≠ 0 ∧ 0 < config.ipcBacklog)
    ⟨fun h => ⟨h.1, h.2⟩, fun h => ⟨h.reportPeriodUs, h.ipcBacklog⟩⟩

theorem not_checked_iff (config : Config) :
    config.reportPeriodUs = 0 ∨ config.ipcBacklog ≤ 0 ↔ ¬ Checked config := by
  constructor
  · rintro (hperiod | hbacklog) h
    · exact h.reportPeriodUs hperiod
    · exact Int.not_lt.mpr hbacklog h.ipcBacklog
  · intro h
    by_contra hnot
    rw [not_or, Int.not_le] at hnot
    exact h ⟨hnot.1, hnot.2⟩

/-- What a configuration becomes when a setting is given a number, or none that can be read. -/
def giveNumber (config : Config) (setting : Setting) (value : Option Nat) : Option Config :=
  value.bind fun n =>
    if n ≤ setting.maximum ∧ Checked (setting.assign config n) then some (setting.assign config n)
    else none

theorem Setting.maximum_le (setting : Setting) : setting.maximum ≤ 2 ^ 32 - 1 := by
  cases setting with
  | ipcPort => decide
  | ipcBacklog => decide
  | _ => exact Nat.le_refl _

/-- A setting takes no number above its maximum. -/
theorem giveNumber_of_maximum_lt (config : Config) {setting : Setting} {n : Nat}
    (h : setting.maximum < n) : giveNumber config setting (some n) = none := by
  rw [giveNumber, Option.bind_some, if_neg]
  rintro ⟨hle, -⟩
  omega

/-- A test of a value and a test of what is made of it. -/
theorem bind_ite {α β : Type*} {p q : Prop} [Decidable p] [Decidable q] {a : α} {b : β}
    {g : α → Option β} (h : g a = if q then some b else none) :
    (if p then some a else none).bind g = if p ∧ q then some b else none := by
  by_cases hp : p
  · rw [if_pos hp, Option.bind_some, h]
    simp [hp]
  · rw [if_neg hp, Option.bind_none, if_neg fun hpq => hp hpq.1]

/-- The last check of `swbt_daemon_config_apply_env`. -/
theorem lastCheck (next : Config) :
    (if next.reportPeriodUs = 0 ∨ next.ipcBacklog ≤ 0 then none else some next) =
      if Checked next then some next else none := by
  by_cases h : Checked next
  · rw [if_neg (mt (not_checked_iff next).mp (not_not.mpr h)), if_pos h]
  · rw [if_pos ((not_checked_iff next).mpr h), if_neg h]

/-- A variable gives its setting the number that `strtoul` reads. -/
theorem applyEnvValues_number [Platform] (config : Config) (setting : Setting) (sign : Sign)
    {ds : List UInt8} (hds : Digits 10 ds) (hne : ds ≠ []) :
    Config.applyEnvValues (setting.env (sign.text ++ ds)) config =
      giveNumber config setting (Config.readValue sign (number 10 ds)) := by
  unfold giveNumber
  cases setting with
  | reportPeriodUs =>
    show (Config.parseU32 (sign.text ++ ds)).bind _ = _
    rw [Config.parseU32_numeral hds hne, Option.bind_assoc]
    exact congrArg _ (funext fun v => bind_ite (lastCheck _))
  | ipcPort =>
    show (Config.parseU16 (sign.text ++ ds)).bind _ = _
    rw [Config.parseU16_numeral hds hne, Option.bind_assoc]
    exact congrArg _ (funext fun v => bind_ite (lastCheck _))
  | ipcBacklog =>
    show (Config.parseInt (sign.text ++ ds)).bind _ = _
    rw [Config.parseInt_numeral hds hne, Option.bind_assoc]
    exact congrArg _ (funext fun v => bind_ite (lastCheck _))
  | ipcHeartbeatTimeoutMs =>
    show (Config.parseU32 (sign.text ++ ds)).bind _ = _
    rw [Config.parseU32_numeral hds hne, Option.bind_assoc]
    exact congrArg _ (funext fun v => bind_ite (lastCheck _))

/-! ## A number in the file -/

namespace ConfigFile

variable {V : Type*} {lib : TomlLibrary V}

/-- The file has the key of one setting, with an integer, and no other key. -/
structure SetsOnly (lib : TomlLibrary V) (root : V) (setting : Setting) (n : Int) (table : V) :
    Prop where
  root_keys : ∀ key ∈ lib.keys root, key = setting.table
  root_get : ∀ key, lib.get root key = if key = setting.table then some table else none
  isTable : lib.isTable table = true
  table_keys : ∀ key ∈ lib.keys table, key = setting.key
  table_get : ∀ key, key ≠ setting.key → lib.get table key = none
  integer : ∃ value, lib.get table setting.key = some value ∧ lib.integer value = some n

/-- The tables of a file with one table. -/
def onlyTable (setting : Setting) (table : V) : Tables V :=
  match setting with
  | .reportPeriodUs => ⟨some table, none, none, none, none⟩
  | _ => ⟨none, some table, none, none, none⟩

namespace SetsOnly

variable {root table : V} {setting : Setting} {n : Int}

theorem findTable_table (h : SetsOnly lib root setting n table) {key : List UInt8}
    (hkey : key = setting.table) : findTable lib root key = some (some table) := by
  rw [findTable_eq_some_iff, h.root_get, if_pos hkey]
  refine ⟨rfl, fun found hfound => ?_⟩
  obtain rfl := Option.some.inj hfound
  exact h.isTable

theorem findTable_other (h : SetsOnly lib root setting n table) {key : List UInt8}
    (hkey : key ≠ setting.table) : findTable lib root key = some none := by
  rw [findTable_eq_some_iff, h.root_get, if_neg hkey]
  exact ⟨rfl, fun found hfound => by cases hfound⟩

theorem root_contains (h : SetsOnly lib root setting n table) {sections : List (List UInt8)}
    (hsection : setting.table ∈ sections) : (lib.keys root).all sections.contains = true := by
  rw [List.all_eq_true]
  intro key hkey
  rw [h.root_keys key hkey]
  exact List.contains_iff_mem.mpr hsection

theorem table_contains (h : SetsOnly lib root setting n table) {allowed : List (List UInt8)}
    (hallowed : setting.key ∈ allowed) : tableContainsOnlyKeys lib (some table) allowed = true := by
  show (lib.keys table).all (fun key => allowed.contains key) = true
  rw [List.all_eq_true]
  intro key hkey
  rw [h.table_keys key hkey]
  exact List.contains_iff_mem.mpr hallowed

/-- The file is accepted, with the table of the setting and no other. -/
theorem found (h : SetsOnly lib root setting n table) :
    Found lib root (onlyTable setting table) := by
  have hlearned : ∀ found ∈ (none : Option V), lib.isTable found = true := by
    intro found hfound
    cases hfound
  cases setting with
  | reportPeriodUs =>
    refine ⟨h.findTable_table rfl, h.findTable_other (by decide), h.findTable_other (by decide),
      h.findTable_other (by decide), rfl, hlearned, h.root_contains (by decide), ?_⟩
    show (tableContainsOnlyKeys lib (some table) _ && _ && _ && _ && _) = true
    rw [h.table_contains (by decide)]
    rfl
  | _ =>
    refine ⟨h.findTable_other (by decide), h.findTable_table rfl, h.findTable_other (by decide),
      h.findTable_other (by decide), rfl, hlearned, h.root_contains (by decide), ?_⟩
    show (_ && tableContainsOnlyKeys lib (some table) _ && _ && _ && _) = true
    rw [h.table_contains (by decide)]
    rfl

end SetsOnly

/-! A key that the file does not have changes nothing. -/

theorem applyU32_absent {table : Option V} {key : List UInt8} (h : valueAt lib table key = none)
    (out : UInt32) : applyU32 lib table key out = some out := by
  rw [applyU32, h]

theorem applyU16_absent {table : Option V} {key : List UInt8} (h : valueAt lib table key = none)
    (out : UInt16) : applyU16 lib table key out = some out := by
  rw [applyU16, h]
  rfl

theorem applyInt_absent {table : Option V} {key : List UInt8} (h : valueAt lib table key = none)
    (out : Int) : applyInt lib table key out = some out := by
  rw [applyInt, h]
  rfl

theorem applyString_absent {table : Option V} {key : List UInt8} (h : valueAt lib table key = none)
    (setter : Config → List UInt8 → Bool × Config) (config : Config) :
    applyString lib table key setter config = some config := by
  rw [applyString, h]

/-- An integer of the file as a number of 32 bits. -/
theorem applyU32_integer {table : Option V} {key : List UInt8} {value : V} {n : Int}
    (hvalue : valueAt lib table key = some value) (hinteger : lib.integer value = some n)
    (out : UInt32) :
    applyU32 lib table key out =
      (if 0 ≤ n then some n.toNat else none).bind fun v =>
        if v ≤ 2 ^ 32 - 1 then some v.toUInt32 else none := by
  rw [applyU32, hvalue]
  dsimp only
  rw [hinteger]
  dsimp only
  by_cases hneg : 0 ≤ n
  · rw [if_pos hneg, Option.bind_some]
    by_cases hlarge : n.toNat ≤ 2 ^ 32 - 1
    · rw [if_pos hlarge, if_neg (by omega)]
    · rw [if_neg hlarge, if_pos (by omega)]
  · rw [if_neg hneg, if_pos (by omega), Option.bind_none]

theorem applyU16_integer {table : Option V} {key : List UInt8} {value : V} {n : Int}
    (hvalue : valueAt lib table key = some value) (hinteger : lib.integer value = some n)
    (out : UInt16) :
    applyU16 lib table key out =
      (if 0 ≤ n then some n.toNat else none).bind fun v =>
        if v ≤ 2 ^ 16 - 1 then some v.toUInt16 else none := by
  rw [applyU16, hvalue, if_neg (by simp), applyU32_integer hvalue hinteger]
  by_cases hneg : 0 ≤ n
  · rw [if_pos hneg, Option.bind_some, Option.bind_some]
    exact Config.narrowed_toUInt16 n.toNat
  · rw [if_neg hneg, Option.bind_none, Option.bind_none]

theorem applyInt_integer {table : Option V} {key : List UInt8} {value : V} {n : Int}
    (hvalue : valueAt lib table key = some value) (hinteger : lib.integer value = some n)
    (out : Int) :
    applyInt lib table key out =
      (if 0 ≤ n then some n.toNat else none).bind fun v =>
        if v ≤ 2 ^ 31 - 1 then some (v : Int) else none := by
  rw [applyInt, hvalue, if_neg (by simp), applyU32_integer hvalue hinteger]
  by_cases hneg : 0 ≤ n
  · rw [if_pos hneg, Option.bind_some, Option.bind_some]
    exact Config.narrowed_toInt n.toNat
  · rw [if_neg hneg, Option.bind_none, Option.bind_none]

/-- A key of the file gives its setting the integer, unless it is negative. -/
theorem SetsOnly.applyTables {root table : V} {setting : Setting} {n : Int}
    (h : SetsOnly lib root setting n table) (config : Config) :
    applyTables lib (onlyTable setting table) config =
      giveNumber config setting (if 0 ≤ n then some n.toNat else none) := by
  obtain ⟨value, hget, hinteger⟩ := h.integer
  have hvalue : valueAt lib (some table) setting.key = some value := hget
  have habsent : ∀ key, key ≠ setting.key → valueAt lib (some table) key = none := h.table_get
  have hu32 := fun key hkey => applyU32_absent (habsent key hkey)
  have hu16 := fun key hkey => applyU16_absent (habsent key hkey)
  have hint := fun key hkey => applyInt_absent (habsent key hkey)
  have hstring := fun key hkey => applyString_absent (habsent key hkey)
  unfold giveNumber
  cases setting with
  | reportPeriodUs =>
    show (applyU32 lib (some table) Setting.reportPeriodUs.key config.reportPeriodUs).bind _ = _
    rw [applyU32_integer hvalue hinteger, Option.bind_assoc]
    exact congrArg _ (funext fun v => bind_ite (lastCheck (Setting.reportPeriodUs.assign config v)))
  | ipcPort =>
    show (applyU16 lib (some table) Setting.ipcPort.key config.ipcPort).bind _ = _
    rw [applyU16_integer hvalue hinteger, Option.bind_assoc]
    refine congrArg _ (funext fun v => bind_ite ?_)
    simp (disch := decide) only [onlyTable, applyIpcHost, hstring, hint, hu32, Option.bind_eq_bind,
      Option.bind_some]
    exact lastCheck (Setting.ipcPort.assign config v)
  | ipcBacklog =>
    unfold ConfigFile.applyTables
    simp (disch := decide) only [onlyTable, applyIpcHost, hstring, hu16, Option.bind_eq_bind,
      Option.bind_some]
    show (applyInt lib (some table) Setting.ipcBacklog.key config.ipcBacklog).bind _ = _
    rw [applyInt_integer hvalue hinteger, Option.bind_assoc]
    refine congrArg _ (funext fun v => bind_ite ?_)
    simp (disch := decide) only [hu32, Option.bind_some]
    exact lastCheck (Setting.ipcBacklog.assign config v)
  | ipcHeartbeatTimeoutMs =>
    unfold ConfigFile.applyTables
    simp (disch := decide) only [onlyTable, applyIpcHost, hstring, hu16, hint, Option.bind_eq_bind,
      Option.bind_some]
    show (applyU32 lib (some table) Setting.ipcHeartbeatTimeoutMs.key
      config.ipcHeartbeatTimeoutMs).bind _ = _
    rw [applyU32_integer hvalue hinteger, Option.bind_assoc]
    exact congrArg _ (funext fun v =>
      bind_ite (lastCheck (Setting.ipcHeartbeatTimeoutMs.assign config v)))

/-- What a file becomes in the configuration when the TOML library may refuse its text. -/
def applyDocument (lib : TomlLibrary V) (config : Config) (document : Option V) : Bool × Config :=
  match document with
  | none => (false, config)
  | some root => ((applyToml lib config root).1 == .ok, (applyToml lib config root).2)

/-- The library's answer to a file that sets one key to an integer in decimal digits: the integer
where 64 bits hold it, else it refuses the file. -/
def HoldsInteger (lib : TomlLibrary V) (setting : Setting) (n : Int) (document : Option V) : Prop :=
  if -2 ^ 63 ≤ n ∧ n < 2 ^ 63 then ∃ root table, document = some root ∧ SetsOnly lib root setting n table
  else document = none

theorem applyDocument_integer {setting : Setting} {n : Int} {document : Option V}
    (h : HoldsInteger lib setting n document) (config : Config) :
    applyDocument lib config document =
      ((giveNumber config setting (if 0 ≤ n then some n.toNat else none)).isSome,
        (giveNumber config setting (if 0 ≤ n then some n.toNat else none)).getD config) := by
  unfold HoldsInteger at h
  by_cases hrange : -2 ^ 63 ≤ n ∧ n < 2 ^ 63
  · rw [if_pos hrange] at h
    obtain ⟨root, table, rfl, hsets⟩ := h
    rw [applyDocument, applyToml, findTables_eq_some_iff.mpr hsets.found, Option.bind_some,
      hsets.applyTables]
    cases giveNumber config setting (if 0 ≤ n then some n.toNat else none) with
    | none => rfl
    | some next => rfl
  · rw [if_neg hrange] at h
    subst h
    have hmax := setting.maximum_le
    have hnone : giveNumber config setting (if 0 ≤ n then some n.toNat else none) = none := by
      by_cases hneg : 0 ≤ n
      · rw [if_pos hneg, giveNumber_of_maximum_lt config (by omega)]
      · rw [if_neg hneg]
        rfl
    rw [hnone]
    rfl

end ConfigFile

/-! ## The two together -/

namespace Config

open ConfigFile

/-- The environment and the file give a setting the same number, or both refuse it. -/
structure SameNumber [Platform] {V : Type*} (lib : TomlLibrary V) (config : Config)
    (setting : Setting) (text : List UInt8) (document : Option V) : Prop where
  accepted : (config.applyEnv (setting.env text)).1 = true ↔
    (applyDocument lib config document).1 = true
  config : (config.applyEnv (setting.env text)).2 = (applyDocument lib config document).2

/-- The negative number that `strtoul` wraps around into the range of the setting. -/
def WrapsInto [Platform] (setting : Setting) (sign : Sign) (n : Nat) : Prop :=
  sign = .minus ∧ n < 2 ^ Platform.ulong.bits ∧ 2 ^ Platform.ulong.bits - setting.maximum ≤ n

/-- The configuration passes the last check once the setting has a number other than zero. -/
def OthersChecked (config : Config) (setting : Setting) : Prop :=
  (setting = .reportPeriodUs ∨ config.reportPeriodUs ≠ 0) ∧
    (setting = .ipcBacklog ∨ 0 < config.ipcBacklog)

theorem checked_assign_iff {setting : Setting} {n : Nat} (hpos : 0 < n) (hle : n ≤ setting.maximum)
    (config : Config) : Checked (setting.assign config n) ↔ OthersChecked config setting := by
  cases setting with
  | reportPeriodUs =>
    have hmax : n ≤ 2 ^ 32 - 1 := hle
    have hne : n.toUInt32 ≠ 0 := by
      intro hzero
      have htoNat := congrArg UInt32.toNat hzero
      simp only [Nat.toUInt32, UInt32.toNat_ofNat', UInt32.toNat_zero] at htoNat
      omega
    constructor
    · intro h
      exact ⟨.inl rfl, .inr h.ipcBacklog⟩
    · rintro ⟨-, hbacklog⟩
      exact ⟨hne, hbacklog.resolve_left (by decide)⟩
  | ipcBacklog =>
    have hbacklog : (0 : Int) < n := by omega
    constructor
    · intro h
      exact ⟨.inr h.reportPeriodUs, .inl rfl⟩
    · rintro ⟨hperiod, -⟩
      exact ⟨hperiod.resolve_left (by decide), hbacklog⟩
  | _ =>
    constructor
    · intro h
      exact ⟨.inr h.reportPeriodUs, .inr h.ipcBacklog⟩
    · rintro ⟨hperiod, hbacklog⟩
      exact ⟨hperiod.resolve_left (by decide), hbacklog.resolve_left (by decide)⟩

theorem applyEnv_eq [Platform] (config : Config) (env : ConfigEnv) :
    config.applyEnv env =
      ((applyEnvValues env config).isSome, (applyEnvValues env config).getD config) := by
  unfold applyEnv
  cases applyEnvValues env config with
  | none => rfl
  | some next => rfl

/-- A refused environment leaves the configuration as it is. -/
theorem applyEnv_refused [Platform] {config : Config} {env : ConfigEnv}
    (h : (config.applyEnv env).1 = false) : (config.applyEnv env).2 = config := by
  rw [applyEnv_eq] at h ⊢
  rw [Option.isSome_eq_false_iff, Option.isNone_iff_eq_none] at h
  rw [h, Option.getD_none]

/-- A refused file leaves the configuration as it is. -/
theorem applyToml_refused {V : Type*} {lib : TomlLibrary V} {config : Config} {root : V}
    (h : (applyToml lib config root).1 ≠ .ok) : (applyToml lib config root).2 = config := by
  unfold applyToml at h ⊢
  split
  · rfl
  · next next hnext =>
    rw [hnext] at h
    exact absurd rfl h

theorem maximum_lt_ulong [Platform] (setting : Setting) :
    setting.maximum < 2 ^ Platform.ulong.bits := by
  have hmax := setting.maximum_le
  have hbits : 2 ^ 32 ≤ 2 ^ Platform.ulong.bits := by
    cases Platform.ulong with
    | bits32 => exact Nat.le_refl _
    | bits64 => decide
  omega

/-- Without a minus, `strtoul` reads the number or a setting takes none that large. -/
theorem giveNumber_readValue [Platform] (config : Config) (setting : Setting) {sign : Sign}
    (hminus : sign ≠ .minus) (n : Nat) :
    giveNumber config setting (readValue sign n) = giveNumber config setting (some n) := by
  have hmax := maximum_lt_ulong setting
  unfold readValue
  by_cases hrange : n ≥ 2 ^ Platform.ulong.bits
  · rw [if_pos hrange, giveNumber_of_maximum_lt config (by omega)]
    rfl
  · rw [if_neg hrange, if_neg hminus]

/-- A minus that `strtoul` reads is taken exactly where it wraps around into the range of the
setting. -/
theorem giveNumber_readValue_minus_iff [Platform] (config : Config) (setting : Setting) {n : Nat}
    (hpos : 0 < n) :
    giveNumber config setting (readValue .minus n) = none ↔
      ¬ (WrapsInto setting .minus n ∧ OthersChecked config setting) := by
  have hmax := maximum_lt_ulong setting
  unfold WrapsInto readValue
  by_cases hrange : n ≥ 2 ^ Platform.ulong.bits
  · rw [if_pos hrange]
    exact iff_of_true rfl fun h => by omega
  · have hmod : (2 ^ Platform.ulong.bits - n) % 2 ^ Platform.ulong.bits =
        2 ^ Platform.ulong.bits - n := Nat.mod_eq_of_lt (by omega)
    rw [if_neg hrange, if_pos rfl, hmod]
    by_cases hle : 2 ^ Platform.ulong.bits - n ≤ setting.maximum
    · have hchecked := checked_assign_iff (by omega) hle config
      rw [giveNumber, Option.bind_some]
      by_cases hothers : OthersChecked config setting
      · rw [if_pos ⟨hle, hchecked.mpr hothers⟩]
        exact iff_of_false (by simp) fun h => h ⟨⟨rfl, by omega, by omega⟩, hothers⟩
      · rw [if_neg fun h => hothers (hchecked.mp h.2)]
        exact iff_of_true rfl fun h => hothers h.2
    · rw [giveNumber_of_maximum_lt config (by omega)]
      exact iff_of_true rfl fun h => by omega

/-- What `strtoul` reads is the number of the file, unless it wraps around. -/
theorem giveNumber_readValue_iff [Platform] (config : Config) (setting : Setting) (sign : Sign)
    (n : Nat) :
    giveNumber config setting (readValue sign n) =
        giveNumber config setting (if 0 ≤ sign.apply n then some (sign.apply n).toNat else none) ↔
      ¬ (WrapsInto setting sign n ∧ OthersChecked config setting) := by
  by_cases hminus : sign = .minus
  · subst hminus
    have happly : Sign.minus.apply n = -(n : Int) := rfl
    rw [happly]
    by_cases hzero : n = 0
    · -- minus zero is zero on both sides
      subst hzero
      have hmax := maximum_lt_ulong setting
      have hread : readValue .minus 0 = some 0 := by
        rw [readValue, if_neg (by omega), if_pos rfl, Nat.sub_zero, Nat.mod_self]
      rw [hread, if_pos (by omega)]
      refine iff_of_true rfl ?_
      rintro ⟨⟨-, -, hwraps⟩, -⟩
      omega
    · rw [if_neg (show ¬ (0 : Int) ≤ -(n : Int) by omega)]
      exact giveNumber_readValue_minus_iff config setting (by omega)
  · have happly : sign.apply n = n := by
      cases sign with
      | minus => exact absurd rfl hminus
      | _ => rfl
    rw [happly, if_pos (Int.natCast_nonneg n), Int.toNat_natCast]
    exact iff_of_true (giveNumber_readValue config setting hminus n) fun h => hminus h.1.1

/-- **The environment and the file agree on numbers.** For a text of an optional sign and decimal
digits, a setting is given the same number by its variable and by its key, or is refused by both,
unless the text is negative and wraps around into the range of the setting, in a configuration that
passes the last check otherwise. Whatever is refused leaves the configuration as it is. -/
theorem env_file_agree_iff [Platform] {V : Type*} (lib : TomlLibrary V) (config : Config)
    (setting : Setting) (sign : Sign) {ds : List UInt8} (hds : Digits 10 ds) (hne : ds ≠ [])
    {document : Option V}
    (hdocument : HoldsInteger lib setting (sign.apply (number 10 ds)) document) :
    (SameNumber lib config setting (sign.text ++ ds) document ↔
      ¬ (WrapsInto setting sign (number 10 ds) ∧ OthersChecked config setting)) ∧
      (∀ (config : Config) (env : ConfigEnv), (config.applyEnv env).1 = false →
        (config.applyEnv env).2 = config) ∧
      (∀ (config : Config) (root : V), (applyToml lib config root).1 ≠ .ok →
        (applyToml lib config root).2 = config) := by
  refine ⟨?_, fun _ _ => applyEnv_refused, fun _ _ => applyToml_refused⟩
  have henv : config.applyEnv (setting.env (sign.text ++ ds)) =
      ((giveNumber config setting (readValue sign (number 10 ds))).isSome,
        (giveNumber config setting (readValue sign (number 10 ds))).getD config) := by
    rw [applyEnv_eq, applyEnvValues_number config setting sign hds hne]
  have hfile := applyDocument_integer hdocument config
  rw [← giveNumber_readValue_iff config setting sign (number 10 ds)]
  constructor
  · rintro ⟨haccepted, hconfig⟩
    rw [henv, hfile] at haccepted hconfig
    dsimp only at haccepted hconfig
    generalize giveNumber config setting (readValue sign (number 10 ds)) = taken at *
    generalize giveNumber config setting _ = written at *
    cases taken with
    | none =>
      cases written with
      | none => rfl
      | some next => simp at haccepted
    | some next =>
      cases written with
      | none => simp at haccepted
      | some next' => exact congrArg some hconfig
  · intro h
    constructor
    · rw [henv, hfile, h]
    · rw [henv, hfile, h]

/-- The file with one key, as a value of the library. -/
def oneKey (setting : Setting) (n : Int) : TomlTree :=
  .table [(setting.table, .table [(setting.key, .integer n)])]

theorem holdsInteger_oneKey (setting : Setting) {n : Int} (hrange : -2 ^ 63 ≤ n ∧ n < 2 ^ 63) :
    HoldsInteger TomlTree.library setting n (some (oneKey setting n)) := by
  have hget : ∀ (key other : List UInt8) (value : TomlTree),
      TomlTree.library.get (.table [(key, value)]) other =
        if other = key then some value else none := by
    intro key other value
    show List.lookup other [(key, value)] = _
    rw [List.lookup_cons]
    by_cases h : other = key
    · rw [if_pos h, beq_iff_eq.mpr h]
    · rw [if_neg h, beq_false_of_ne h]
      rfl
  have hkeys : ∀ (key : List UInt8) (value : TomlTree),
      ∀ other ∈ TomlTree.library.keys (.table [(key, value)]), other = key := by
    intro key value other h
    exact List.mem_singleton.mp h
  rw [HoldsInteger, if_pos hrange]
  refine ⟨_, .table [(setting.key, .integer n)], rfl, hkeys _ _, fun key => hget _ _ _, rfl,
    hkeys _ _, fun key hkey => ?_, .integer n, ?_, rfl⟩
  · rw [hget, if_neg hkey]
  · rw [hget, if_pos rfl]

/-- The port of the documentation, as text and as integer. -/
theorem env_file_agree_port :
    @SameNumber .lp64 _ TomlTree.library Config.default .ipcPort (bytes "37637")
      (some (oneKey .ipcPort 37637)) :=
  ((@env_file_agree_iff .lp64 _ TomlTree.library Config.default .ipcPort .none (bytes "37637")
    (by unfold Digits; decide +kernel) (by decide) _
    (holdsInteger_oneKey .ipcPort (by decide))).1).mpr fun h => absurd h.1.1 (by decide)

/-- The variable of the report period takes minus one where `unsigned long` has 32 bits, and that of
the backlog takes a text below minus 64 bits where it has 64. The file takes neither. -/
theorem negative_number_taken :
    HoldsInteger TomlTree.library .reportPeriodUs (-1) (some (oneKey .reportPeriodUs (-1))) ∧
      ¬ @SameNumber .llp64 _ TomlTree.library Config.default .reportPeriodUs (bytes "-1")
        (some (oneKey .reportPeriodUs (-1))) ∧
      HoldsInteger TomlTree.library .ipcBacklog (-18446744073709551615) none ∧
      ¬ @SameNumber .lp64 _ TomlTree.library Config.default .ipcBacklog
        (bytes "-18446744073709551615") none := by
  refine ⟨holdsInteger_oneKey .reportPeriodUs (by decide), fun h => ?_, rfl, fun h => ?_⟩
  · have haccepted := @SameNumber.accepted .llp64 _ _ _ _ _ _ h
    exact absurd (haccepted.mp (by decide)) (by decide)
  · have haccepted := @SameNumber.accepted .lp64 _ _ _ _ _ _ h
    exact absurd (haccepted.mp (by decide)) (by decide)

end Config

end Swbt
