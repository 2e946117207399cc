import SwbtDaemon.Daemon.ConfigFile
import SwbtDaemon.Daemon.Proofs.ConfigProofs
import SwbtDaemon.Daemon.TomlForm

/-!
# The file that a save leaves

A save that succeeds changes the learned address of the file and nothing else; one that is refused
changes nothing. One that fails while the file is written leaves a prefix of the new text.
-/

namespace Swbt

namespace ConfigFile

variable {V : Type*} {lib : TomlLibrary V} {toml : TomlText V}

/-! ## What a save does -/

/-- The write and its close both succeed. -/
def Complete (answers : SaveAnswers) (output : List UInt8) : Prop :=
  output.length ≤ answers.accepted ∧ answers.writeClosed = true

instance (answers : SaveAnswers) (output : List UInt8) : Decidable (Complete answers output) :=
  inferInstanceAs (Decidable (_ ∧ _))

/-- What a save has seen when it starts to write: the value of the file, accepted by the
configuration, and the text of the value with the learned address set. -/
structure Reaches (lib : TomlLibrary V) (toml : TomlText V) (config : Config)
    (path address : List UInt8) (file : Option (List UInt8)) (answers : SaveAnswers)
    (parsed value : V) (output : List UInt8) : Prop where
  path_ne : path ≠ []
  normalizes : (config.setLearnedSwitchAddress address).1 = true
  loaded : loadOrEmpty lib path (answers.read toml file) = .ok parsed
  accepted : (applyToml lib config parsed).1 = .ok
  edited : withLearnedSwitchAddress lib parsed (CString.ofArray
    (config.setLearnedSwitchAddress address).2.learnedSwitchAddress.toList) = some value
  formatted : toml.format value = some output
  opened : answers.writeOpened = true

/-- What is written, and what is left of it when the write fails. -/
theorem writeText_of_opened {answers : SaveAnswers} (hopened : answers.writeOpened = true)
    {value : V} {output : List UInt8} (houtput : toml.format value = some output)
    (file : Option (List UInt8)) :
    writeText toml answers file value =
      if Complete answers output then (.ok, some output)
      else (.io, some (output.take (min answers.accepted answers.kept))) := by
  rw [writeText, houtput]
  dsimp only
  rw [if_neg (by simp [hopened])]
  rfl

theorem writeText_of_not_opened {answers : SaveAnswers} {value : V}
    (h : toml.format value = none ∨ answers.writeOpened = false) (file : Option (List UInt8)) :
    (writeText toml answers file value).1 ≠ .ok ∧ (writeText toml answers file value).2 = file := by
  unfold writeText
  cases houtput : toml.format value with
  | none => simp
  | some output =>
    rw [houtput] at h
    have hopened : answers.writeOpened = false := h.resolve_left (by simp)
    dsimp only
    rw [if_pos (by simp [hopened])]
    simp

theorem saveFile_of_loaded {config : Config} {path address : List UInt8}
    {file : Option (List UInt8)} {answers : SaveAnswers} {parsed : V} (hpath : path ≠ [])
    (hnormalizes : (config.setLearnedSwitchAddress address).1 = true)
    (hloaded : loadOrEmpty lib path (answers.read toml file) = .ok parsed) :
    saveFile lib toml config path address file answers =
      saveParsed lib toml config (config.setLearnedSwitchAddress address).2 parsed file answers := by
  rw [saveFile, if_neg hpath]
  dsimp only
  rw [hnormalizes, if_neg (by simp), hloaded]

/-- A save that starts to write. -/
theorem Reaches.saveFile_eq {config : Config} {path address : List UInt8}
    {file : Option (List UInt8)} {answers : SaveAnswers} {parsed value : V} {output : List UInt8}
    (h : Reaches lib toml config path address file answers parsed value output) :
    saveFile lib toml config path address file answers =
      if Complete answers output then
        ⟨.ok, (config.setLearnedSwitchAddress address).2, some output⟩
      else ⟨.io, config, some (output.take (min answers.accepted answers.kept))⟩ := by
  rw [saveFile_of_loaded h.path_ne h.normalizes h.loaded, saveParsed]
  dsimp only
  rw [if_neg (not_not.mpr h.accepted), h.edited]
  dsimp only
  rw [writeText_of_opened h.opened h.formatted]
  by_cases hcomplete : Complete answers output
  · rw [if_pos hcomplete, if_pos hcomplete]
    exact if_neg (not_not.mpr rfl)
  · rw [if_neg hcomplete, if_neg hcomplete]
    exact if_pos (by simp)

/-- A save that starts to write succeeds, or fails with an error of the file system. -/
theorem Reaches.result_cases {config : Config} {path address : List UInt8}
    {file : Option (List UInt8)} {answers : SaveAnswers} {parsed value : V} {output : List UInt8}
    (h : Reaches lib toml config path address file answers parsed value output) :
    (saveFile lib toml config path address file answers).result = .ok ∨
      (saveFile lib toml config path address file answers).result = .io := by
  rw [h.saveFile_eq]
  by_cases hcomplete : Complete answers output
  · rw [if_pos hcomplete]
    exact .inl rfl
  · rw [if_neg hcomplete]
    exact .inr rfl

/-- A save that is refused before it writes. -/
structure Refused (saved : SavedFile) (config : Config) (file : Option (List UInt8)) : Prop where
  result : saved.result ≠ .ok
  config : saved.config = config
  file : saved.file = file

/-- A save of a value that has been read is refused, or it starts to write. -/
theorem saveParsed_cases {config next : Config} {parsed : V} (file : Option (List UInt8))
    (answers : SaveAnswers) :
    Refused (saveParsed lib toml config next parsed file answers) config file ∨
      (applyToml lib config parsed).1 = .ok ∧ answers.writeOpened = true ∧
        ∃ value output, withLearnedSwitchAddress lib parsed
            (CString.ofArray next.learnedSwitchAddress.toList) = some value ∧
          toml.format value = some output := by
  unfold saveParsed
  dsimp only
  by_cases haccepted : (applyToml lib config parsed).1 = .ok
  swap
  · left
    rw [if_pos haccepted]
    exact ⟨haccepted, rfl, rfl⟩
  rw [if_neg (not_not.mpr haccepted)]
  cases hvalue : withLearnedSwitchAddress lib parsed
      (CString.ofArray next.learnedSwitchAddress.toList) with
  | none => exact .inl ⟨by simp, rfl, rfl⟩
  | some value =>
    dsimp only
    by_cases hwrites : toml.format value = none ∨ answers.writeOpened = false
    · left
      obtain ⟨hresult, hfile⟩ := writeText_of_not_opened hwrites file
      rw [if_pos hresult]
      exact ⟨hresult, rfl, hfile⟩
    · right
      rw [not_or, ← ne_eq, Option.ne_none_iff_exists', Bool.not_eq_false] at hwrites
      obtain ⟨⟨output, houtput⟩, hopened⟩ := hwrites
      exact ⟨haccepted, hopened, value, output, rfl, houtput⟩

/-- A save is refused, or it starts to write. -/
theorem saveFile_cases (lib : TomlLibrary V) (toml : TomlText V) (config : Config)
    (path address : List UInt8) (file : Option (List UInt8)) (answers : SaveAnswers) :
    Refused (saveFile lib toml config path address file answers) config file ∨
      ∃ parsed value output, Reaches lib toml config path address file answers parsed value output := by
  by_cases hpath : path = []
  · left
    rw [saveFile, if_pos hpath]
    exact ⟨by simp, rfl, rfl⟩
  by_cases hnormalizes : (config.setLearnedSwitchAddress address).1 = true
  swap
  · left
    rw [saveFile, if_neg hpath]
    dsimp only
    rw [if_pos (by simpa using hnormalizes)]
    exact ⟨by simp, rfl, rfl⟩
  cases hloaded : loadOrEmpty lib path (answers.read toml file) with
  | error result =>
    left
    have hresult : result ≠ .ok := by
      rintro rfl
      exact loadOrEmpty_ne_error_ok _ _ hloaded
    rw [saveFile, if_neg hpath]
    dsimp only
    rw [hnormalizes, if_neg (by simp), hloaded]
    exact ⟨hresult, rfl, rfl⟩
  | ok parsed =>
    rw [saveFile_of_loaded hpath hnormalizes hloaded]
    rcases saveParsed_cases file answers with hrefused | ⟨haccepted, hopened, value, output, hvalue,
      houtput⟩
    · exact .inl hrefused
    · exact .inr ⟨parsed, value, output, hpath, hnormalizes, hloaded, haccepted, hvalue, houtput,
        hopened⟩

/-! ## The save on values -/

/-- The answers of the file system to a text that is written. -/
def SaveAnswers.write (answers : SaveAnswers) (output : Option (List UInt8)) : WriteAnswers :=
  ⟨output.isSome, answers.writeOpened, (output.getD []).length ≤ answers.accepted,
    answers.writeClosed⟩

theorem writeText_fst (answers : SaveAnswers) (file : Option (List UInt8)) (value : V) :
    (writeText toml answers file value).1 = writeFile (answers.write (toml.format value)) := by
  unfold writeText writeFile SaveAnswers.write
  cases toml.format value with
  | none => rfl
  | some output =>
    cases answers.writeOpened with
    | false => rfl
    | true =>
      show (if output.length ≤ answers.accepted ∧ answers.writeClosed = true then _ else _ :
        ConfigFileResult × Option (List UInt8)).1 =
          if (decide (output.length ≤ answers.accepted) && answers.writeClosed) = true then .ok
          else .io
      by_cases hcomplete : output.length ≤ answers.accepted ∧ answers.writeClosed = true
      · rw [if_pos hcomplete, if_pos]
        simpa using hcomplete
      · rw [if_neg hcomplete, if_neg]
        simpa using hcomplete

/-- The save on the bytes of the file is the one on its value: it has the same result and leaves the
same configuration. -/
theorem saveFile_refines (config : Config) (path address : List UInt8)
    (file : Option (List UInt8)) (answers : SaveAnswers) :
    ∃ output,
      (saveFile lib toml config path address file answers).result =
        (saveLearnedSwitchAddress lib config path address (answers.read toml file)
          (answers.write output)).result ∧
      (saveFile lib toml config path address file answers).config =
        (saveLearnedSwitchAddress lib config path address (answers.read toml file)
          (answers.write output)).config := by
  unfold saveFile saveLearnedSwitchAddress
  by_cases hpath : path = []
  · rw [if_pos hpath]
    exact ⟨none, by rw [if_pos hpath], by rw [if_pos hpath]⟩
  simp only [if_neg hpath]
  generalize config.setLearnedSwitchAddress address = set
  obtain ⟨ok, next⟩ := set
  cases ok with
  | false => exact ⟨none, rfl, rfl⟩
  | true =>
    cases loadOrEmpty lib path (answers.read toml file) with
    | error result => exact ⟨none, rfl, rfl⟩
    | ok parsed =>
      simp only [Bool.not_true, Bool.false_eq_true, if_false, saveParsed]
      generalize (applyToml lib config parsed).1 = accepted
      cases accepted with
      | ok =>
        cases withLearnedSwitchAddress lib parsed
            (CString.ofArray next.learnedSwitchAddress.toList) with
        | none => exact ⟨none, rfl, rfl⟩
        | some value =>
          refine ⟨toml.format value, ?_⟩
          simp only [ne_eq, not_true_eq_false, if_false, writeText_fst]
          cases writeFile (answers.write (toml.format value)) with
          | ok => exact ⟨rfl, rfl⟩
          | _ => exact ⟨rfl, rfl⟩
      | _ => exact ⟨none, rfl, rfl⟩

/-! ## What the file gives -/

/-- The address in its normal form, whatever it replaces, and read back as itself. -/
structure NormalForm (address : List UInt8) (normalized : SwitchAddress.Text) : Prop where
  normalize : ∀ dest, SwitchAddress.normalize dest address = (true, normalized)
  again : ∀ dest, SwitchAddress.normalize dest (CString.ofArray normalized.toList) = (true, normalized)

theorem exists_normalForm {config : Config} {address : List UInt8}
    (h : (config.setLearnedSwitchAddress address).1 = true) :
    ∃ normalized, NormalForm address normalized := by
  have hok : (SwitchAddress.normalize config.learnedSwitchAddress address).1 = true := h
  obtain ⟨bytes, hspelled⟩ := (SwitchAddress.normalize_fst_iff _ _).mp hok
  have hformat := (SwitchAddress.spelled_formatBytes bytes config.learnedSwitchAddress).ofArray
  exact ⟨SwitchAddress.formatBytes bytes config.learnedSwitchAddress,
    fun dest => SwitchAddress.normalize_of_spelled hspelled dest _,
    fun dest => SwitchAddress.normalize_of_spelled hformat dest _⟩

theorem NormalForm.set {address : List UInt8} {normalized : SwitchAddress.Text}
    (h : NormalForm address normalized) (config : Config) :
    config.setLearnedSwitchAddress address = (true, withLearned config normalized) := by
  unfold Config.setLearnedSwitchAddress
  rw [h.normalize]
  rfl

/-- A missing file counts as an empty one. -/
theorem loadOrEmpty_ok {path : List UInt8} {answers : SaveAnswers} {file : Option (List UInt8)}
    {parsed : V} (h : loadOrEmpty lib path (answers.read toml file) = .ok parsed) :
    (file = none ∧ parsed = lib.emptyTable) ∨ ∃ text, file = some text ∧ toml.parse text = some parsed := by
  obtain ⟨opened, closed, readable, writeOpened, accepted, writeClosed, kept⟩ := answers
  unfold loadOrEmpty at h
  split at h
  · cases h
  · cases opened with
    | false => cases h
    | true =>
      cases file with
      | none => exact .inl ⟨rfl, (Except.ok.inj h).symm⟩
      | some text =>
        refine .inr ⟨text, rfl, ?_⟩
        cases closed with
        | false => cases h
        | true =>
          cases readable with
          | false => cases h
          | true =>
            cases hparse : toml.parse text with
            | none =>
              simp [SaveAnswers.read, hparse] at h
            | some value =>
              simp only [SaveAnswers.read, Option.bind_some, hparse] at h
              rw [← Except.ok.inj h]

/-- An empty file changes nothing. -/
theorem applyToml_emptyTable {base : Config} (hbase : Checked base) :
    applyToml lib base lib.emptyTable = (.ok, base) := by
  have hmissing : ∀ key, findTable lib lib.emptyTable key = some none := by
    intro key
    rw [findTable, lib.get_emptyTable]
  have hfound : Found lib lib.emptyTable ⟨none, none, none, none, none⟩ := by
    refine ⟨hmissing _, hmissing _, hmissing _, hmissing _, rfl, ?_, ?_, rfl⟩
    · intro found hfound
      cases hfound
    · rw [rootContainsOnlyKnownSections, lib.keys_emptyTable]
      rfl
  refine applyToml_ok_iff.mpr ⟨_, hfound, ?_⟩
  exact if_neg (not_or.mpr ⟨hbase.reportPeriodUs, Int.not_le.mpr hbase.ipcBacklog⟩)

/-- What loading a file gives is what its value gives. -/
theorem loadFile_some {base : Config} {path : List UInt8} (hpath : path ≠ []) (required : Bool)
    {text : List UInt8} {value : V} (h : toml.parse text = some value) :
    loadFile lib toml base path required (some text) = applyToml lib base value := by
  rw [loadFile, applyFile, if_neg hpath, Option.bind_some, h]
  rfl

theorem loadFile_of_loaded {base : Config} (hbase : Checked base) {path : List UInt8}
    (hpath : path ≠ []) {answers : SaveAnswers} {file : Option (List UInt8)} {parsed : V}
    (h : loadOrEmpty lib path (answers.read toml file) = .ok parsed) :
    loadFile lib toml base path false file = applyToml lib base parsed := by
  rcases loadOrEmpty_ok h with ⟨rfl, rfl⟩ | ⟨text, rfl, hparse⟩
  · rw [applyToml_emptyTable hbase, loadFile, applyFile, if_neg hpath]
    rfl
  · exact loadFile_some hpath false hparse

/-! ## Saving again -/

theorem exists_ensureChildTable {parent : V} (hparent : lib.isTable parent = true)
    {key : List UInt8} (hchild : ∀ found ∈ lib.get parent key, lib.isTable found = true) :
    ∃ parent' child, ensureChildTable lib parent key = some (parent', child) := by
  rw [ensureChildTable, if_neg (by simp [hparent])]
  cases hget : lib.get parent key with
  | none => exact ⟨_, _, rfl⟩
  | some found =>
    have htable := hchild found (by rw [hget]; rfl)
    dsimp only
    rw [if_pos htable]
    exact ⟨_, _, rfl⟩

/-- The learned address can be set in every accepted table. -/
theorem exists_withLearnedSwitchAddress {root : V} (hroot : lib.isTable root = true)
    {tables : Tables V} (hfound : Found lib root tables) (text : List UInt8) :
    ∃ value, withLearnedSwitchAddress lib root text = some value := by
  obtain ⟨hget, htable⟩ := findTable_eq_some_iff.mp hfound.activeReconnect
  obtain ⟨root', active, hensure⟩ := exists_ensureChildTable hroot (by rw [hget]; exact htable)
  have hspec := ensureChildTable_spec hensure
  have hlearned : ∀ found ∈ lib.get active (CString.bytes "learned"), lib.isTable found = true := by
    rw [hspec.child_get, hget, hfound.learned]
    exact hfound.learned_table
  obtain ⟨active', learned, hensure'⟩ := exists_ensureChildTable hspec.child_table hlearned
  unfold withLearnedSwitchAddress
  simp only [Option.bind_eq_bind, Option.bind_eq_some_iff]
  exact ⟨_, (root', active), hensure, (active', learned), hensure', rfl⟩

theorem isTable_withLearnedSwitchAddress {parsed value : V} {text : List UInt8}
    (h : withLearnedSwitchAddress lib parsed text = some value) : lib.isTable value = true := by
  unfold withLearnedSwitchAddress at h
  simp only [Option.bind_eq_bind, Option.bind_eq_some_iff] at h
  obtain ⟨⟨root, active⟩, hroot, ⟨active', learned⟩, -, hvalue⟩ := h
  rw [← Option.some.inj hvalue]
  exact lib.isTable_set _ _ _ (ensureChildTable_spec hroot).parent_table

/-- What a successful save has done: the file was absent or accepted, and the configuration and what
the file gives have changed in the learned address only. -/
structure Preserves (lib : TomlLibrary V) (toml : TomlText V) (config : Config)
    (path address : List UInt8) (file : Option (List UInt8)) (saved : SavedFile)
    (normalized : SwitchAddress.Text) : Prop where
  accepted : ∀ text, file = some text →
    ∃ root, toml.parse text = some root ∧ (applyToml lib config root).1 = .ok
  normalize : SwitchAddress.normalize config.learnedSwitchAddress address = (true, normalized)
  config : saved.config = withLearned config normalized
  loads : ∀ base, Checked base → ∃ next,
    (∀ required, (file = none → required = false) →
      loadFile lib toml base path required file = (.ok, next)) ∧
    ∀ required, loadFile lib toml base path required saved.file = (.ok, withLearned next normalized)

theorem Reaches.preserves {config : Config} {path address : List UInt8}
    {file : Option (List UInt8)} {answers : SaveAnswers} {parsed value : V} {output : List UInt8}
    (h : Reaches lib toml config path address file answers parsed value output)
    {normalized : SwitchAddress.Text} (hnormal : NormalForm address normalized) :
    Preserves lib toml config path address file
      ⟨.ok, withLearned config normalized, some output⟩ normalized := by
  have hset := hnormal.set config
  have hedited := h.edited
  rw [hset] at hedited
  refine ⟨fun text htext => ?_, hnormal.normalize _, rfl, fun base hbase => ?_⟩
  · rcases loadOrEmpty_ok h.loaded with ⟨rfl, -⟩ | ⟨text', rfl, hparse⟩
    · cases htext
    · obtain rfl := Option.some.inj htext
      exact ⟨parsed, hparse, h.accepted⟩
  · obtain ⟨next, hnext⟩ := applyToml_again h.accepted hbase
    refine ⟨next, fun required hrequired => ?_, fun required => ?_⟩
    · rcases loadOrEmpty_ok h.loaded with ⟨rfl, -⟩ | ⟨text, rfl, hparse⟩
      · rw [hrequired rfl, loadFile_of_loaded hbase h.path_ne h.loaded, hnext]
      · rw [loadFile_some h.path_ne required hparse, hnext]
    · rw [loadFile_some h.path_ne required (toml.parse_format _ _ h.formatted)]
      exact applyToml_withLearned hnext hnormal.again hedited base.learnedSwitchAddress

/-- A save of a file that a save has written is not refused. -/
theorem Reaches.again {config : Config} {path address : List UInt8} {file : Option (List UInt8)}
    {answers : SaveAnswers} {parsed value : V} {output : List UInt8}
    (h : Reaches lib toml config path address file answers parsed value output)
    {normalized : SwitchAddress.Text} (hnormal : NormalForm address normalized)
    (hformat : ∀ value, (toml.format value).isSome = true) :
    ∃ value' output', ∀ answers' : SaveAnswers, answers'.Succeed output' →
      Reaches lib toml (withLearned config normalized) path address (some output) answers' value
        value' output' := by
  have hset := hnormal.set config
  have hedited := h.edited
  rw [hset] at hedited
  obtain ⟨tables, hfound, happly⟩ := applyToml_ok_iff.mp (Prod.ext h.accepted rfl)
  obtain ⟨activeReconnect, learned, hfound', -, -⟩ := found_withLearnedSwitchAddress hfound hedited
  obtain ⟨value', hvalue'⟩ := exists_withLearnedSwitchAddress
    (isTable_withLearnedSwitchAddress hedited) hfound' (CString.ofArray normalized.toList)
  obtain ⟨output', houtput'⟩ := Option.isSome_iff_exists.mp (hformat value')
  refine ⟨value', output', fun answers' hsucceed => ?_⟩
  have haccepted := applyToml_withLearned (Prod.ext h.accepted rfl) hnormal.again hedited normalized
  refine ⟨h.path_ne, ?_, ?_, ?_, ?_, houtput', hsucceed.writeOpened⟩
  · rw [hnormal.set]
  · rw [loadOrEmpty, if_neg h.path_ne]
    simp [SaveAnswers.read, hsucceed.opened, hsucceed.closed, hsucceed.readable,
      toml.parse_format _ _ h.formatted]
  · rw [haccepted]
  · rw [hnormal.set]
    exact hvalue'

/-- A save that succeeds. -/
theorem saveFile_ok {config : Config} {path address : List UInt8} {file : Option (List UInt8)}
    {answers : SaveAnswers} (h : (saveFile lib toml config path address file answers).result = .ok) :
    ∃ parsed value output normalized,
      Reaches lib toml config path address file answers parsed value output ∧
      NormalForm address normalized ∧
      saveFile lib toml config path address file answers =
        ⟨.ok, withLearned config normalized, some output⟩ := by
  rcases saveFile_cases lib toml config path address file answers with hrefused |
    ⟨parsed, value, output, hreaches⟩
  · exact absurd h hrefused.result
  · obtain ⟨normalized, hnormal⟩ := exists_normalForm hreaches.normalizes
    refine ⟨parsed, value, output, normalized, hreaches, hnormal, ?_⟩
    have heq := hreaches.saveFile_eq
    rw [heq] at h ⊢
    by_cases hcomplete : Complete answers output
    · rw [if_pos hcomplete, hnormal.set]
    · rw [if_neg hcomplete] at h
      cases h

/-- A second save of the address changes neither the configuration nor what the file gives. -/
theorem Reaches.same_again {config : Config} {path address : List UInt8}
    {file : Option (List UInt8)} {answers : SaveAnswers} {parsed value : V} {output : List UInt8}
    (h : Reaches lib toml config path address file answers parsed value output)
    {normalized : SwitchAddress.Text} (hnormal : NormalForm address normalized)
    {answers' : SaveAnswers} {again : SavedFile}
    (heq : saveFile lib toml (withLearned config normalized) path address (some output) answers' =
      again) (hok : again.result = .ok) :
    again.config = withLearned config normalized ∧
      ∀ base, Checked base → ∀ required,
        loadFile lib toml base path required again.file =
          loadFile lib toml base path required (some output) := by
  subst heq
  obtain ⟨parsed', value', output', normalized', hreaches', hnormal', hsaved'⟩ := saveFile_ok hok
  obtain rfl : normalized' = normalized := by
    have heq := (hnormal'.normalize normalized).symm.trans (hnormal.normalize normalized)
    exact (Prod.mk.inj heq).2
  rw [hsaved']
  refine ⟨rfl, fun base hbase required => ?_⟩
  obtain ⟨next, -, hnext⟩ := (h.preserves hnormal).loads base hbase
  obtain ⟨next', hbefore, hnext'⟩ := (hreaches'.preserves hnormal').loads base hbase
  -- what the second save found is what the first one left
  have hsame := (hbefore required (by simp)).symm.trans (hnext required)
  rw [hnext', hnext, (Prod.mk.inj hsame).2]
  rfl

/-- **A save changes the learned address only.** When it succeeds, the file was absent or accepted,
and the file then gives every configuration that passes the last check what it gave before, with the
learned address replaced by the normal form of the one that was saved; the configuration changes
likewise. Saving the address once more is not refused, and what it writes gives the same again. A
save that fails with anything but an error of the file system changes neither. -/
theorem save_preserves (lib : TomlLibrary V) (toml : TomlText V) (config : Config)
    (path address : List UInt8) (file : Option (List UInt8)) (answers : SaveAnswers) :
    let saved := saveFile lib toml config path address file answers
    (saved.result = .ok →
      (∃ normalized, Preserves lib toml config path address file saved normalized) ∧
      ((∀ value, (toml.format value).isSome = true) → ∃ output, ∀ answers' : SaveAnswers,
        answers'.Succeed output →
        (saveFile lib toml saved.config path address saved.file answers').result = .ok) ∧
      ∀ answers', let again := saveFile lib toml saved.config path address saved.file answers'
        again.result = .ok → again.config = saved.config ∧
          ∀ base, Checked base → ∀ required,
            loadFile lib toml base path required again.file =
              loadFile lib toml base path required saved.file) ∧
    (saved.result = .invalidArgument ∨ saved.result = .invalidValue ∨ saved.result = .parse →
      saved.file = file ∧ saved.config = config) := by
  intro saved
  constructor
  · intro hok
    obtain ⟨parsed, value, output, normalized, hreaches, hnormal, hsaved⟩ := saveFile_ok hok
    show (∃ normalized, Preserves lib toml config path address file saved normalized) ∧ _
    rw [show saved = _ from hsaved]
    refine ⟨⟨normalized, hreaches.preserves hnormal⟩, fun hformat => ?_, fun answers' hagain => ?_⟩
    · obtain ⟨value', output', hsucceeds⟩ := hreaches.again hnormal hformat
      refine ⟨output', fun answers' hsucceed => ?_⟩
      rw [(hsucceeds answers' hsucceed).saveFile_eq,
        if_pos ⟨hsucceed.accepted, hsucceed.writeClosed⟩]
    · exact hreaches.same_again hnormal rfl hagain
  · intro hresult
    rcases saveFile_cases lib toml config path address file answers with hrefused |
      ⟨parsed, value, output, hreaches⟩
    · exact ⟨hrefused.file, hrefused.config⟩
    · exfalso
      rcases hreaches.result_cases with hok | hio
      · rw [show saved.result = _ from hok] at hresult
        simp at hresult
      · rw [show saved.result = _ from hio] at hresult
        simp at hresult

/-! ## A small file -/

/-- A file with a report period. -/
def periodText : List UInt8 := CString.bytes "[report]\nperiod_us = 15000\n"

/-- The value of the file. -/
def periodTree : TomlTree :=
  .table [(CString.bytes "report", .table [(CString.bytes "period_us", .integer 15000)])]

/-- The file with a learned address. -/
def learnedText : List UInt8 :=
  CString.bytes "[active_reconnect.learned]\nswitch_address = \"01:23:45:67:89:AB\"\n" ++ periodText

/-- The value of the file with a learned address. -/
def learnedTree : TomlTree :=
  .table [(CString.bytes "active_reconnect",
      .table [(CString.bytes "learned",
        .table [(CString.bytes "switch_address", .string (CString.bytes "01:23:45:67:89:AB"))])]),
    (CString.bytes "report", .table [(CString.bytes "period_us", .integer 15000)])]

/-- The text of the value with a learned address. -/
def formatLearned : TomlTree → Option (List UInt8)
  | .table [(active, .table [(learned, .table [(key, .string address)])]),
      (report, .table [(period, .integer n)])] =>
    if active = CString.bytes "active_reconnect" ∧ learned = CString.bytes "learned" ∧
        key = CString.bytes "switch_address" ∧ address = CString.bytes "01:23:45:67:89:AB" ∧
        report = CString.bytes "report" ∧ period = CString.bytes "period_us" ∧ n = 15000 then
      some learnedText
    else none
  | _ => none

/-- The library on these files and the empty one. -/
def periodToml : TomlText TomlTree where
  parse text :=
    if text = [] then some (.table [])
    else if text = periodText then some periodTree
    else if text = learnedText then some learnedTree
    else none
  format := formatLearned
  parse_format value text h := by
    unfold formatLearned at h
    split at h
    · split at h
      · next hvalue =>
        obtain ⟨rfl, rfl, rfl, rfl, rfl, rfl, rfl⟩ := hvalue
        obtain rfl := Option.some.inj h
        rw [if_neg (by decide), if_neg (by decide), if_pos rfl]
        rfl
      · cases h
    · cases h

/-- The same library with a text for every other value as well. -/
def totalToml : TomlText TomlTree where
  parse text :=
    match periodToml.parse text, text with
    | some value, _ => some value
    | none, 0 :: cs => (TomlTree.takeTree (cs.length + 1) cs).map (·.1)
    | none, _ => none
  format value := some ((formatLearned value).getD (0 :: TomlTree.putTree value))
  parse_format value text h := by
    obtain rfl := Option.some.inj h
    cases hformat : formatLearned value with
    | some text => rw [Option.getD_some, periodToml.parse_format value text hformat]
    | none =>
      have hne : ∀ other : List UInt8, other.head? ≠ some 0 →
          0 :: TomlTree.putTree value ≠ other := by
        rintro _ hhead rfl
        exact hhead rfl
      have hother : periodToml.parse (0 :: TomlTree.putTree value) = none := by
        unfold periodToml
        dsimp only
        rw [if_neg (hne _ (by decide)), if_neg (hne _ (by decide)), if_neg (hne _ (by decide))]
      have hread := TomlTree.takeTree_putTree value (Nat.lt_succ_self _) []
      rw [List.append_nil] at hread
      rw [Option.getD_none, hother]
      exact congrArg (Option.map (·.1)) hread

/-- The address of a console is saved to a file with a report period, and then once more. -/
theorem save_preserves_period :
    let path := CString.bytes "config.toml"
    let address := CString.bytes "01:23:45:67:89:ab"
    let saved := saveFile TomlTree.library totalToml Config.default path address (some periodText)
      ⟨true, true, true, true, 200, true, 0⟩
    (∃ normalized, Preserves TomlTree.library totalToml Config.default path address
      (some periodText) saved normalized) ∧
      ∃ answers',
        let again := saveFile TomlTree.library totalToml saved.config path address saved.file answers'
        again.result = .ok ∧ again.config = saved.config ∧
          loadFile TomlTree.library totalToml Config.default path true again.file =
            loadFile TomlTree.library totalToml Config.default path true saved.file := by
  intro path address saved
  obtain ⟨hpreserves, hagain, hsame⟩ := (save_preserves TomlTree.library totalToml Config.default
    path address (some periodText) ⟨true, true, true, true, 200, true, 0⟩).1 (by decide +kernel)
  obtain ⟨output, hsucceeds⟩ := hagain fun _ => rfl
  have hok := hsucceeds ⟨true, true, true, true, output.length, true, 0⟩
    ⟨rfl, rfl, rfl, rfl, Nat.le_refl _, rfl⟩
  obtain ⟨hconfig, hloads⟩ := hsame _ hok
  exact ⟨hpreserves, _, hok, hconfig, hloads Config.default ⟨by decide, by decide⟩ true⟩

/-! ## A save that fails -/

/-- **What a failed save leaves.** The configuration is as it was. So is the file, unless it had been
opened for writing: then the write was short or the close failed, and the file holds the part of the
new text that was written. -/
theorem failed_save_leaves (lib : TomlLibrary V) (toml : TomlText V) (config : Config)
    (path address : List UInt8) (file : Option (List UInt8)) (answers : SaveAnswers) :
    let saved := saveFile lib toml config path address file answers
    saved.result ≠ .ok →
      saved.config = config ∧
        (saved.file = file ∨
          saved.result = .io ∧ ∃ parsed value output,
            Reaches lib toml config path address file answers parsed value output ∧
            ¬ Complete answers output ∧
            saved.file = some (output.take (min answers.accepted answers.kept))) := by
  intro saved hresult
  rcases saveFile_cases lib toml config path address file answers with hrefused |
    ⟨parsed, value, output, hreaches⟩
  · exact ⟨hrefused.config, .inl hrefused.file⟩
  · have heq : saved = _ := hreaches.saveFile_eq
    by_cases hcomplete : Complete answers output
    · rw [heq, if_pos hcomplete] at hresult
      exact absurd rfl hresult
    · rw [if_neg hcomplete] at heq
      rw [heq]
      exact ⟨rfl, .inr ⟨rfl, parsed, value, output, hreaches, hcomplete, rfl⟩⟩

theorem failed_save_leaves_period :
    (saveFile TomlTree.library periodToml Config.default (CString.bytes "config.toml")
      (CString.bytes "01:23:45:67:89:ab") (some periodText)
      ⟨true, true, true, true, 0, true, 0⟩).config = Config.default :=
  (failed_save_leaves TomlTree.library periodToml Config.default (CString.bytes "config.toml")
    (CString.bytes "01:23:45:67:89:ab") (some periodText)
    ⟨true, true, true, true, 0, true, 0⟩ (by decide +kernel)).1

/-- A save whose write takes no byte leaves an empty file: the report period is lost. -/
theorem interrupted_save_loses_period :
    let saved := saveFile TomlTree.library periodToml Config.default (CString.bytes "config.toml")
      (CString.bytes "01:23:45:67:89:ab") (some periodText) ⟨true, true, true, true, 0, true, 0⟩
    saved.result = .io ∧
      (loadFile TomlTree.library periodToml Config.default (CString.bytes "config.toml") true
        (some periodText)).2.reportPeriodUs = 15000 ∧
      (loadFile TomlTree.library periodToml Config.default (CString.bytes "config.toml") true
        saved.file).2.reportPeriodUs = 8000 := by
  decide +kernel

end ConfigFile

end Swbt
