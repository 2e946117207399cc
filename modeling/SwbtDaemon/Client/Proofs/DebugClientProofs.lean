import SwbtDaemon.Client.DebugClient
import SwbtDaemon.Switch.Proofs.ReportProofs

/-!
# What the command line of the debug client gives

The state of an accepted command line is reportable, and its sequence is the value of the last
`--seq` option.
-/

namespace Swbt.DebugClient

open CString

/-- The argument after the last `--seq`. -/
def lastSeq : List (List UInt8) → Option (List UInt8)
  | arg :: value :: rest =>
    (lastSeq (value :: rest)).or (if arg = bytes "--seq" then some value else none)
  | _ => none

/-- The sequence after the arguments, for a sequence before them. -/
def sequenceAfter (sequence : UInt64) (args : List (List UInt8)) : UInt64 :=
  match lastSeq args with
  | none => sequence
  | some text => ((parseU64 text 0xFFFFFFFFFFFFFFFF).getD 0).toUInt64

theorem lastSeq_cons {arg : List UInt8} (h : arg ≠ bytes "--seq") (rest : List (List UInt8)) :
    lastSeq (arg :: rest) = lastSeq rest := by
  cases rest with
  | nil => rfl
  | cons value rest => rw [lastSeq, if_neg h, Option.or_none]

/-! ## Numbers -/

theorem parseU64_le {text : List UInt8} {maxValue n : Nat} (h : parseU64 text maxValue = some n) :
    n ≤ maxValue := by
  unfold parseU64 at h
  split at h
  · exact absurd h (by simp)
  · exact absurd h (by simp)
  · split at h
    · exact absurd h (by simp)
    · split_ifs at h with hbad
      obtain rfl := Option.some.inj h
      by_contra hlarge
      exact hbad (.inr (.inr (by omega)))

theorem parseStick_le {option text : List UInt8} {value : UInt16}
    (h : parseStick option text = .ok value) : value ≤ 4095 := by
  unfold parseStick at h
  split at h
  · exact absurd h (by simp)
  · next n hn =>
    obtain rfl := Except.ok.inj h
    have hle := parseU64_le hn
    rw [UInt16.le_iff_toNat_le, UInt16.toNat_ofNat', Nat.mod_eq_of_lt (by omega)]
    exact hle

theorem parseButtonName_defined {text : List UInt8} {mask : UInt32}
    (h : parseButtonName text = some mask) : mask &&& ~~~Swbt.definedButtonMask = 0 := by
  obtain ⟨button, hfind, rfl⟩ := Option.map_eq_some_iff.mp h
  have hall : ∀ button ∈ buttons, button.2 &&& ~~~Swbt.definedButtonMask = 0 := by decide
  exact hall button (List.mem_of_find?_eq_some hfind)

theorem or_defined {a b : UInt32} (ha : a &&& ~~~Swbt.definedButtonMask = 0)
    (hb : b &&& ~~~Swbt.definedButtonMask = 0) : (a ||| b) &&& ~~~Swbt.definedButtonMask = 0 := by
  apply UInt32.toNat_inj.mp
  have ha' := congrArg UInt32.toNat ha
  have hb' := congrArg UInt32.toNat hb
  simp only [UInt32.toNat_and, UInt32.toNat_or] at ha' hb' ⊢
  rw [Nat.and_or_distrib_right, ha', hb']
  rfl

/-- The client has its own copy of the mask. -/
theorem definedButtonMask_daemon : definedButtonMask = Swbt.definedButtonMask := rfl

/-- A value is never the name of the option `--seq`. -/
theorem parseU64_ne_seq {text : List UInt8} {maxValue n : Nat}
    (h : parseU64 text maxValue = some n) : text ≠ bytes "--seq" := by
  rintro rfl
  exact absurd h (by simp [parseU64, bytes])

theorem parseI64_seq (minValue maxValue : Int) :
    parseI64 (bytes "--seq") minValue maxValue = none :=
  rfl

theorem parseButtonName_ne_seq {text : List UInt8} {mask : UInt32}
    (h : parseButtonName text = some mask) : text ≠ bytes "--seq" := by
  have hseq : parseButtonName (bytes "--seq") = none := by decide
  rintro rfl
  rw [hseq] at h
  exact absurd h (by simp)

/-! ## Options -/

/-- What an option that takes a value does to the configuration. -/
structure Applied (option : ValueOption) (value : List UInt8) (config config' : Config) :
    Prop where
  reportable : config.state.Reportable → config'.state.Reportable
  sequence : config'.sequence =
    if option = .seq then ((parseU64 value 0xFFFFFFFFFFFFFFFF).getD 0).toUInt64
    else config.sequence
  value : value ≠ bytes "--seq"

/-- The options of the sticks. -/
theorem stick_ok {arg value : List UInt8} {set : UInt16 → Config} {config' : Config}
    (h : (do let v ← parseStick arg value; Except.ok (set v)) = .ok config') :
    ∃ v, v ≤ 4095 ∧ config' = set v ∧ value ≠ bytes "--seq" := by
  cases hparse : parseStick arg value with
  | error text => exact absurd (hparse ▸ h) (by simp [bind, Except.bind])
  | ok v =>
    rw [hparse] at h
    refine ⟨v, parseStick_le hparse, (Except.ok.inj h).symm, ?_⟩
    unfold parseStick at hparse
    split at hparse
    · exact absurd hparse (by simp)
    · next n hn => exact parseU64_ne_seq hn

/-- The options of the motion values. -/
theorem i16_ok {arg value : List UInt8} {set : Int16 → Config} {config' : Config}
    (h : (do let v ← parseI16Option arg value; Except.ok (set v)) = .ok config') :
    ∃ v, config' = set v ∧ value ≠ bytes "--seq" := by
  cases hparse : parseI16Option arg value with
  | error text => exact absurd (hparse ▸ h) (by simp [bind, Except.bind])
  | ok v =>
    rw [hparse] at h
    refine ⟨v, (Except.ok.inj h).symm, ?_⟩
    rintro rfl
    rw [parseI16Option, parseI64_seq] at hparse
    exact absurd hparse (by simp)

theorem apply_ok {option : ValueOption} {config config' : Config} {arg value : List UInt8}
    (h : option.apply config arg value = .ok config') : Applied option value config config' := by
  cases option with
  | port =>
    rw [ValueOption.apply] at h
    split at h
    · exact absurd h (by simp)
    · next n hn =>
      split_ifs at h
      obtain rfl := Except.ok.inj h
      exact ⟨fun hs => hs, rfl, parseU64_ne_seq hn⟩
  | buttons =>
    rw [ValueOption.apply, definedButtonMask_daemon] at h
    split at h
    · exact absurd h (by simp)
    · next n hn =>
      split_ifs at h with hmask
      obtain rfl := Except.ok.inj h
      exact ⟨fun hs => ⟨not_not.mp hmask, hs.lx, hs.ly, hs.rx, hs.ry⟩, rfl, parseU64_ne_seq hn⟩
  | button =>
    rw [ValueOption.apply] at h
    split at h
    · exact absurd h (by simp)
    · next mask hname =>
      obtain rfl := Except.ok.inj h
      have hmask := parseButtonName_defined hname
      refine ⟨fun hs => ⟨?_, hs.lx, hs.ly, hs.rx, hs.ry⟩, rfl, parseButtonName_ne_seq hname⟩
      exact or_defined hs.buttons hmask
  | lx =>
    obtain ⟨v, hv, rfl, hvalue⟩ := stick_ok h
    exact ⟨fun hs => ⟨hs.buttons, hv, hs.ly, hs.rx, hs.ry⟩, rfl, hvalue⟩
  | ly =>
    obtain ⟨v, hv, rfl, hvalue⟩ := stick_ok h
    exact ⟨fun hs => ⟨hs.buttons, hs.lx, hv, hs.rx, hs.ry⟩, rfl, hvalue⟩
  | rx =>
    obtain ⟨v, hv, rfl, hvalue⟩ := stick_ok h
    exact ⟨fun hs => ⟨hs.buttons, hs.lx, hs.ly, hv, hs.ry⟩, rfl, hvalue⟩
  | ry =>
    obtain ⟨v, hv, rfl, hvalue⟩ := stick_ok h
    exact ⟨fun hs => ⟨hs.buttons, hs.lx, hs.ly, hs.rx, hv⟩, rfl, hvalue⟩
  | accelX | accelY | accelZ | gyroX | gyroY | gyroZ =>
    obtain ⟨v, rfl, hvalue⟩ := i16_ok h
    exact ⟨fun hs => ⟨hs.buttons, hs.lx, hs.ly, hs.rx, hs.ry⟩, rfl, hvalue⟩
  | seq =>
    rw [ValueOption.apply] at h
    split at h
    · exact absurd h (by simp)
    · next n hn =>
      obtain rfl := Except.ok.inj h
      refine ⟨fun hs => hs, ?_, parseU64_ne_seq hn⟩
      rw [if_pos rfl, hn]
      rfl
  | holdMs =>
    rw [ValueOption.apply] at h
    split at h
    · exact absurd h (by simp)
    · next n hn =>
      obtain rfl := Except.ok.inj h
      exact ⟨fun hs => hs, rfl, parseU64_ne_seq hn⟩

/-! ## The loop -/

theorem name_of_ofArg {arg : List UInt8} {option : ValueOption}
    (h : ValueOption.ofArg arg = some option) : arg = bytes option.name := by
  unfold ValueOption.ofArg at h
  have hname := List.find?_some h
  exact (beq_iff_eq.mp hname).symm

theorem name_eq_seq_iff (option : ValueOption) :
    bytes option.name = bytes "--seq" ↔ option = .seq := by
  cases option <;> decide

theorem neutral_reportable : State.neutral.Reportable := by
  constructor <;> decide

/-- An option with its value sets the sequence, or leaves it to the arguments after it. -/
theorem sequenceAfter_option {option : ValueOption} {config config' : Config}
    {arg value : List UInt8} (hname : arg = bytes option.name) (h : Applied option value config config')
    (rest : List (List UInt8)) :
    sequenceAfter config.sequence (arg :: value :: rest) = sequenceAfter config'.sequence rest := by
  unfold sequenceAfter
  rw [lastSeq, lastSeq_cons h.value, hname, h.sequence]
  by_cases hseq : option = .seq
  · rw [if_pos ((name_eq_seq_iff option).mpr hseq), if_pos hseq]
    cases lastSeq rest <;> rfl
  · rw [if_neg (fun heq => hseq ((name_eq_seq_iff option).mp heq)), if_neg hseq, Option.or_none]

theorem sequenceAfter_flag {arg : List UInt8} (h : arg ≠ bytes "--seq") (sequence : UInt64)
    (rest : List (List UInt8)) :
    sequenceAfter sequence (arg :: rest) = sequenceAfter sequence rest := by
  rw [sequenceAfter, lastSeq_cons h]
  rfl

/-- A loop that ends well keeps the state reportable and takes the sequence of the last `--seq`. -/
theorem parseLoop_ok {config config' : Config} {args : List (List UInt8)}
    (h : parseLoop config args = .ok config') :
    (config.state.Reportable → config'.state.Reportable) ∧
      config'.sequence = sequenceAfter config.sequence args := by
  fun_induction parseLoop config args with
  | case1 config =>
    obtain rfl := Except.ok.inj h
    exact ⟨id, rfl⟩
  | case2 => exact absurd h (by simp)
  | case3 => exact absurd h (by simp)
  | case4 => exact absurd h (by simp)
  | case5 config arg _ option hoption value rest config₁ happly ih =>
    have happlied := apply_ok happly
    obtain ⟨hreport, hsequence⟩ := ih h
    refine ⟨fun hs => hreport (happlied.reportable hs), ?_⟩
    rw [hsequence, sequenceAfter_option (name_of_ofArg hoption) happlied]
  | case6 config rest _ _ ih =>
    obtain ⟨hreport, hsequence⟩ := ih h
    exact ⟨hreport, by rw [hsequence, sequenceAfter_flag (by decide)]⟩
  | case7 config rest _ _ _ ih =>
    obtain ⟨hreport, hsequence⟩ := ih h
    exact ⟨fun _ => hreport neutral_reportable, by rw [hsequence, sequenceAfter_flag (by decide)]⟩
  | case8 => exact absurd h (by simp)

/-- What an accepted command line gives. -/
theorem parseArgs_ok {argv : List (List UInt8)} {config : Config}
    (h : parseArgs argv = .ok config) :
    config.state.Reportable ∧ config.sequence = sequenceAfter 0 argv.tail := by
  unfold parseArgs at h
  split at h
  · split at h
    · exact absurd h (by simp)
    · next hloop =>
      split_ifs at h
      obtain rfl := Except.ok.inj h
      obtain ⟨hreport, hsequence⟩ := parseLoop_ok hloop
      exact ⟨hreport neutral_reportable, hsequence⟩
  · exact absurd h (by simp)

end Swbt.DebugClient
