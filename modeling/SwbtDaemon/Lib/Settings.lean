import Mathlib.Data.List.Basic
import Mathlib.Data.List.Induction
import Mathlib.Logic.Function.Basic

/-!
# Settings

A list of settings gives keys their values, one after the other; the last setting of a key wins.
-/

namespace Settings

variable {κ ν : Type*} [DecidableEq κ]

/-- The value of the last setting of a key. -/
def lastValue (key : κ) (settings : List (κ × ν)) : Option ν :=
  ((settings.filter fun setting => setting.1 = key).getLast?).map Prod.snd

/-- The values after the settings. -/
def applyAll (values : κ → Option ν) (settings : List (κ × ν)) : κ → Option ν :=
  settings.foldl (fun values setting => Function.update values setting.1 (some setting.2)) values

/-- **The last setting wins.** -/
theorem applyAll_apply (values : κ → Option ν) (settings : List (κ × ν)) (key : κ) :
    applyAll values settings key = (lastValue key settings).or (values key) := by
  induction settings using List.reverseRecOn with
  | nil => rfl
  | append_singleton settings setting ih =>
    have hlast : applyAll values (settings ++ [setting]) =
        Function.update (applyAll values settings) setting.1 (some setting.2) := by
      rw [applyAll, List.foldl_append]
      rfl
    rw [hlast, lastValue, List.filter_append]
    by_cases hkey : setting.1 = key
    · rw [List.filter_cons_of_pos (by simpa using hkey), ← hkey, Function.update_self]
      simp
    · rw [List.filter_cons_of_neg (by simpa using hkey), Function.update_of_ne (Ne.symm hkey), ih,
        List.filter_nil, List.append_nil, lastValue]

/-- The last value of a key was set. -/
theorem mem_of_lastValue {settings : List (κ × ν)} {key : κ} {value : ν}
    (h : lastValue key settings = some value) : (key, value) ∈ settings := by
  obtain ⟨setting, hlast, rfl⟩ := Option.map_eq_some_iff.mp h
  obtain ⟨hmem, hkey⟩ := List.mem_filter.mp (List.mem_of_getLast? hlast)
  obtain rfl : setting.1 = key := by simpa using hkey
  exact hmem

/-- Settings of different keys may change their places. -/
theorem lastValue_congr {settings settings' : List (κ × ν)} {key : κ}
    (h : (settings.filter fun setting => setting.1 = key) =
      settings'.filter fun setting => setting.1 = key) :
    lastValue key settings = lastValue key settings' := by
  rw [lastValue, h, lastValue]

end Settings
