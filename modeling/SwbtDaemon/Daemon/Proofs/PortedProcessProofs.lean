import SwbtDaemon.Daemon.PortedProcess
import SwbtDaemon.Daemon.Proofs.MainProofs
import SwbtDaemon.Lib.CString

/-!
# Proofs: the daemon opens and closes the Bluetooth stack in turns

The calls of a start and of a stop are known, and the flags of the ports say what is open at each of
them. So every function of the ports opens what is closed and closes what is open.
-/

namespace Swbt

open Brackets (Alternates)

/-! ## What is open -/

namespace Opened

variable {opened : Opened} {x y : StackResource} {b : Bool}

def set (opened : Opened) (x : StackResource) (b : Bool) : Opened :=
  match x with
  | .hciDump => { opened with hciDump := b }
  | .runLoop => { opened with runLoop := b }
  | .hci => { opened with hci := b }
  | .linkKeyDb => { opened with linkKeyDb := b }
  | .linkKeyEvents => { opened with linkKeyEvents := b }
  | .ipcPumpTimer => { opened with ipcPumpTimer := b }
  | .hidDevice => { opened with hidDevice := b }
  | .reportCallbacks => { opened with reportCallbacks := b }

theorem has_set_self (opened : Opened) (x : StackResource) (b : Bool) :
    (opened.set x b).has x = b := by
  cases x <;> rfl

theorem has_set_of_ne (h : x ≠ y) : (opened.set x b).has y = opened.has y := by
  cases x <;> cases y <;> first | rfl | exact absurd rfl h

theorem set_of_has (h : opened.has x = b) : opened.set x b = opened := by
  subst h
  cases x <;> rfl

end Opened

namespace ProductionPorts

variable {r x : StackResource} {log : List StackCall} {opened : Opened}

theorem open_alternates (h : Alternates r false log (opened.has r)) (hx : opened.has x = false) :
    Alternates r false (log ++ [.start x true]) ((opened.set x true).has r) := by
  by_cases hr : x = r
  · subst hr
    rw [hx] at h
    rw [Opened.has_set_self]
    exact h.append (.start (.nil _))
  · rw [Opened.has_set_of_ne hr]
    exact h.append (.other hr (.nil _))

theorem close_alternates (h : Alternates r false log (opened.has r)) (hx : opened.has x = true) :
    Alternates r false (log ++ [.stop x]) ((opened.set x false).has r) := by
  by_cases hr : x = r
  · subst hr
    rw [hx] at h
    rw [Opened.has_set_self]
    exact h.append (.stop (.nil _))
  · rw [Opened.has_set_of_ne hr]
    exact h.append (.other hr (.nil _))

theorem failed_alternates (h : Alternates r false log (opened.has r)) (x : StackResource) :
    Alternates r false (log ++ [.start x false]) (opened.has r) := by
  by_cases hr : x = r
  · subst hr
    exact h.append (.failed (.nil _))
  · exact h.append (.other hr (.nil _))

/-! ## The functions of the ports -/

/-- The flags of the ports say what is open, and `r` has been opened and closed in turns. -/
structure Agrees (r : StackResource) (dump keys : Option (List UInt8)) (ports : ProductionPorts)
    (pump : Bool) (opened : Opened) : Prop extends Shows ports opened where
  alternates : Alternates r false ports.log (opened.has r)
  hciDumpPath : ports.hciDumpPath = dump
  linkKeyDbPath : ports.linkKeyDbPath = keys
  ipcPumpStarted : ports.ipcPumpStarted = pump

variable {dump keys : Option (List UInt8)} {ports : ProductionPorts} {pump : Bool}

/-- What no flag remembers does not matter for the other resources. -/
theorem Agrees.untracked (h : Agrees r dump keys ports pump opened) (b : Bool)
    (hx : x = .runLoop ∨ x = .hci) (hr : x ≠ r) :
    Agrees r dump keys ports pump (opened.set x b) := by
  have halternates := h.alternates
  rw [← Opened.has_set_of_ne (b := b) hr] at halternates
  rcases hx with rfl | rfl
  · exact { h with alternates := halternates }
  · exact { h with alternates := halternates }

/-- A call that no flag remembers. -/
theorem Agrees.openCall (h : Agrees r dump keys ports pump opened)
    (hx : x = .runLoop ∨ x = .hci ∨ x = .hidDevice) (hclosed : opened.has x = false) :
    Agrees r dump keys (ports.call (.start x true)) pump (opened.set x true) := by
  have halternates := open_alternates h.alternates hclosed
  rcases hx with rfl | rfl | rfl
  · exact { h with alternates := halternates }
  · exact { h with alternates := halternates }
  · exact { h with alternates := halternates }

theorem Agrees.closeCall (h : Agrees r dump keys ports pump opened)
    (hx : x = .runLoop ∨ x = .hci ∨ x = .hidDevice) (hopen : opened.has x = true) :
    Agrees r dump keys (ports.call (.stop x)) pump (opened.set x false) := by
  have halternates := close_alternates h.alternates hopen
  rcases hx with rfl | rfl | rfl
  · exact { h with alternates := halternates }
  · exact { h with alternates := halternates }
  · exact { h with alternates := halternates }

theorem Agrees.failedCall (h : Agrees r dump keys ports pump opened) (x : StackResource) :
    Agrees r dump keys (ports.call (.start x false)) pump opened :=
  { h with alternates := failed_alternates h.alternates x }

/-- A function that closes what a flag says is open. -/
theorem Agrees.closeFlagged {flag : Bool} {closed : ProductionPorts}
    (h : Agrees r dump keys ports pump opened) (hflag : flag = opened.has x)
    (hclose : opened.has x = true → Agrees r dump keys closed pump (opened.set x false)) :
    Agrees r dump keys (if !flag then ports else closed) pump (opened.set x false) := by
  subst hflag
  cases hopen : opened.has x with
  | false => exact (Opened.set_of_has hopen).symm ▸ h
  | true => exact hclose hopen

/-- A function that opens what a flag says is closed. -/
theorem Agrees.openFlagged {flag : Bool} {open' : ProductionPorts}
    (h : Agrees r dump keys ports pump opened) (hflag : flag = opened.has x)
    (hopen : opened.has x = false → Agrees r dump keys open' pump (opened.set x true)) :
    Agrees r dump keys (if flag then ports else open') pump (opened.set x true) := by
  subst hflag
  cases hclosed : opened.has x with
  | true => exact (Opened.set_of_has hclosed).symm ▸ h
  | false => exact hopen hclosed

theorem hciDumpStart_agrees (h : Agrees r dump keys ports pump opened)
    (hclosed : opened.hciDump = false) (answers : StackAnswers) :
    (ports.hciDumpStart answers).1 = (!diagnosticPathIsEnabled dump || answers.hciDumpOpen) ∧
      Agrees r dump keys (ports.hciDumpStart answers).2 pump
        (opened.set .hciDump (diagnosticPathIsEnabled dump && answers.hciDumpOpen)) := by
  have hself : opened.set .hciDump false = opened := Opened.set_of_has hclosed
  unfold hciDumpStart
  rw [h.hciDumpPath]
  cases diagnosticPathIsEnabled dump with
  | false => exact ⟨rfl, hself.symm ▸ h⟩
  | true =>
    cases answers.hciDumpOpen with
    | false => exact ⟨rfl, hself.symm ▸ h.failedCall .hciDump⟩
    | true =>
      exact ⟨rfl, { h with
        alternates := open_alternates h.alternates (x := .hciDump) hclosed
        hciDumpOpen := rfl }⟩

theorem hciDumpStop_agrees (h : Agrees r dump keys ports pump opened) :
    Agrees r dump keys ports.hciDumpStop pump (opened.set .hciDump false) :=
  h.closeFlagged h.hciDumpOpen fun hopen =>
    { h with
      alternates := close_alternates h.alternates hopen
      hciDumpOpen := rfl }

theorem linkKeyEventsStart_agrees (h : Agrees r dump keys ports pump opened) :
    Agrees r dump keys ports.linkKeyEventsStart pump (opened.set .linkKeyEvents true) :=
  h.openFlagged h.linkKeyEvents fun hclosed =>
    { h with
      alternates := open_alternates h.alternates hclosed
      linkKeyEvents := rfl }

theorem linkKeyEventsStop_agrees (h : Agrees r dump keys ports pump opened) :
    Agrees r dump keys ports.linkKeyEventsStop pump (opened.set .linkKeyEvents false) :=
  h.closeFlagged h.linkKeyEvents fun hopen =>
    { h with
      alternates := close_alternates h.alternates hopen
      linkKeyEvents := rfl }

theorem linkKeyDbStart_agrees (h : Agrees r dump keys ports pump opened)
    (hdb : opened.linkKeyDb = false) (hevents : opened.linkKeyEvents = false)
    (answers : StackAnswers) :
    let opens := diagnosticPathIsEnabled keys && answers.linkKeyDbOpen
    (ports.linkKeyDbStart answers).1 = (!diagnosticPathIsEnabled keys || answers.linkKeyDbOpen) ∧
      Agrees r dump keys (ports.linkKeyDbStart answers).2 pump
        ((opened.set .linkKeyEvents opens).set .linkKeyDb opens) := by
  have hself : (opened.set .linkKeyEvents false).set .linkKeyDb false = opened := by
    rw [Opened.set_of_has (show opened.has .linkKeyEvents = false from hevents),
      Opened.set_of_has (show opened.has .linkKeyDb = false from hdb)]
  unfold linkKeyDbStart
  rw [h.linkKeyDbPath]
  cases diagnosticPathIsEnabled keys with
  | false => exact ⟨rfl, hself.symm ▸ h⟩
  | true =>
    cases answers.linkKeyDbOpen with
    | false => exact ⟨rfl, hself.symm ▸ h.failedCall .linkKeyDb⟩
    | true =>
      -- the database is open before its flag says so
      have hcall : Agrees r dump keys
          { ports.call (.start .linkKeyDb true) with linkKeyDbOpen := true } pump
          (opened.set .linkKeyDb true) :=
        { h with
          alternates := open_alternates h.alternates (x := .linkKeyDb) hdb
          linkKeyDbOpen := rfl }
      have hboth := linkKeyEventsStart_agrees hcall
      refine ⟨rfl, ?_⟩
      unfold linkKeyEventsStart at hboth ⊢
      split at hboth
      · next hregistered =>
        rw [if_neg (by decide), if_neg (by decide), if_pos hregistered]
        exact hboth
      · next hregistered =>
        rw [if_neg (by decide), if_neg (by decide), if_neg hregistered]
        exact hboth

theorem linkKeyDbStop_agrees (h : Agrees r dump keys ports pump opened) :
    Agrees r dump keys ports.linkKeyDbStop pump (opened.set .linkKeyDb false) :=
  h.closeFlagged h.linkKeyDbOpen fun hopen =>
    { h with
      alternates := close_alternates h.alternates hopen
      linkKeyDbOpen := rfl }

theorem ipcPumpSchedule_agrees (h : Agrees r dump keys ports true opened) :
    Agrees r dump keys ports.ipcPumpSchedule true (opened.set .ipcPumpTimer true) := by
  unfold ipcPumpSchedule
  rw [h.ipcPumpStarted, Bool.not_true, Bool.false_or]
  exact h.openFlagged h.ipcPumpTimer fun hclosed =>
    { h with
      alternates := open_alternates h.alternates hclosed
      ipcPumpTimer := rfl }

/-- The pump is started while its timer is not registered: the flag is cleared for nothing. -/
theorem ipcPumpStart_agrees (h : Agrees r dump keys ports pump opened)
    (hclosed : opened.ipcPumpTimer = false) :
    Agrees r dump keys ports.ipcPumpStart true opened :=
  { h with
    ipcPumpStarted := rfl
    ipcPumpTimer := hclosed.symm }

theorem ipcPumpStop_agrees (h : Agrees r dump keys ports pump opened) :
    Agrees r dump keys ports.ipcPumpStop false (opened.set .ipcPumpTimer false) := by
  unfold ipcPumpStop
  rw [h.ipcPumpTimer]
  cases hopen : opened.ipcPumpTimer with
  | false =>
    have hself : opened.set .ipcPumpTimer false = opened := Opened.set_of_has hopen
    exact hself.symm ▸ { h with ipcPumpStarted := rfl }
  | true =>
    exact { h with
      alternates := close_alternates h.alternates (x := .ipcPumpTimer) hopen
      ipcPumpStarted := rfl
      ipcPumpTimer := rfl }

/-- The handler of the timer registers it again. -/
theorem ipcPumpTimerHandler_agrees (h : Agrees r dump keys ports true opened)
    (hopen : opened.ipcPumpTimer = true) :
    Agrees r dump keys ports.ipcPumpTimerHandler true opened := by
  have hdelivered : Agrees r dump keys
      { ports.call (.stop .ipcPumpTimer) with ipcPumpTimerPending := false } true
      (opened.set .ipcPumpTimer false) :=
    { h with
      alternates := close_alternates h.alternates (x := .ipcPumpTimer) hopen
      ipcPumpTimer := rfl }
  have hself : opened.set .ipcPumpTimer true = opened := Opened.set_of_has hopen
  have hagain := ipcPumpSchedule_agrees hdelivered
  rwa [show (opened.set .ipcPumpTimer false).set .ipcPumpTimer true = opened.set .ipcPumpTimer true
    from rfl, hself] at hagain

theorem outputHandlerStart_agrees (h : Agrees r dump keys ports pump opened)
    (hclosed : opened.reportCallbacks = false) :
    Agrees r dump keys ports.outputHandlerStart pump (opened.set .reportCallbacks true) :=
  { h with
    alternates := open_alternates h.alternates (x := .reportCallbacks) hclosed
    outputReportHandler := rfl }

theorem outputHandlerStop_agrees (h : Agrees r dump keys ports pump opened)
    (hopen : opened.reportCallbacks = true) :
    Agrees r dump keys ports.outputHandlerStop pump (opened.set .reportCallbacks false) :=
  { h with
    alternates := close_alternates h.alternates (x := .reportCallbacks) hopen
    outputReportHandler := rfl }

/-! ## The platform -/

/-- What is opened, when what is asked for opens. -/
theorem and_eq_of_asked {asked opens : Bool} (h : (!asked || opens) = true) :
    (asked && opens) = asked := by
  cases asked with
  | false => rfl
  | true => exact h

/-- What the platform opens. -/
def platform (dump keys : Option (List UInt8)) : Opened :=
  { Opened.running dump keys with hidDevice := false, reportCallbacks := false }

/-- What a start of the platform leaves open when it fails after the start of HCI. -/
def left : Opened := (Opened.none.set .runLoop true).set .hci true

/-- That is nothing for the other resources. -/
theorem Agrees.of_left (h : Agrees r dump keys ports pump left) (hr : r ≠ .runLoop ∧ r ≠ .hci) :
    Agrees r dump keys ports pump .none :=
  (h.untracked false (x := .hci) (.inr rfl) hr.2.symm).untracked false (x := .runLoop) (.inl rfl)
    hr.1.symm

/-- A start of the platform opens all of it, or nothing, or it fails late and closes all but the run
loop and HCI again. -/
theorem platformStart_agrees (h : Agrees r dump keys ports true .none) (answers : StackAnswers) :
    let started := ports.platformStart answers
    (started.1 = true ∧ answers.ClosesHci dump keys ∧
        Agrees r dump keys started.2 true (platform dump keys)) ∨
      (started.1 = false ∧ answers.ClosesHci dump keys ∧
        Agrees r dump keys started.2 true .none) ∨
      (started.1 = false ∧ ¬answers.ClosesHci dump keys ∧
        Agrees r dump keys started.2 true left) := by
  obtain ⟨hdump, hdumped⟩ := hciDumpStart_agrees h rfl answers
  have hhci := (hdumped.openCall (x := .runLoop) (.inl rfl) rfl).openCall (x := .hci)
    (.inr (.inl rfl)) rfl
  obtain ⟨hdb, hopened⟩ := linkKeyDbStart_agrees hhci rfl rfl answers
  unfold platformStart
  dsimp only
  cases hdumpOk : (!diagnosticPathIsEnabled dump || answers.hciDumpOpen) with
  | false =>
    obtain ⟨henabled, hclosed⟩ := Bool.or_eq_false_iff.1 hdumpOk
    rw [hclosed, Bool.and_false] at hdumped
    rw [hdump, hdumpOk]
    refine .inr (.inl ⟨rfl, fun hopens => ?_, hdumped⟩)
    exact absurd (hclosed.symm.trans (hopens (by simpa using henabled))) Bool.false_ne_true
  | true =>
    have hopens : diagnosticPathIsEnabled dump = true → answers.hciDumpOpen = true := by
      intro henabled
      rw [henabled] at hdumpOk
      exact hdumpOk
    rw [and_eq_of_asked hdumpOk] at hopened
    rw [hdump, hdumpOk, if_neg (by decide), hdb]
    cases hkeysOk : (!diagnosticPathIsEnabled keys || answers.linkKeyDbOpen) with
    | false =>
      obtain ⟨henabled, hclosed⟩ := Bool.or_eq_false_iff.1 hkeysOk
      rw [hclosed, Bool.and_false] at hopened
      refine .inr (.inr ⟨rfl, fun hkeeps => ?_, hciDumpStop_agrees hopened⟩)
      have hopen := (hkeeps hopens).1 (by simpa using henabled)
      exact absurd (hclosed.symm.trans hopen) Bool.false_ne_true
    | true =>
      rw [if_neg (by decide)]
      cases hdiscovery : answers.discoveryConfigure with
      | false =>
        refine .inr (.inr ⟨rfl, fun hkeeps => ?_, hciDumpStop_agrees (linkKeyDbStop_agrees
          (linkKeyEventsStop_agrees hopened))⟩)
        exact absurd (hdiscovery.symm.trans (hkeeps hopens).2) Bool.false_ne_true
      | true =>
        have hkeys : diagnosticPathIsEnabled keys = true → answers.linkKeyDbOpen = true := by
          intro henabled
          rw [henabled] at hkeysOk
          exact hkeysOk
        rw [and_eq_of_asked hkeysOk] at hopened
        exact .inl ⟨rfl, fun _ => ⟨hkeys, hdiscovery⟩, ipcPumpSchedule_agrees hopened⟩

theorem platformStop_agrees (h : Agrees r dump keys ports pump (platform dump keys)) :
    Agrees r dump keys ports.platformStop false .none := by
  have hevents := linkKeyEventsStop_agrees (ipcPumpStop_agrees h)
  have hdb := linkKeyDbStop_agrees (hevents.closeCall (x := .hci) (.inr (.inl rfl)) rfl)
  exact hciDumpStop_agrees (hdb.closeCall (x := .runLoop) (.inl rfl) rfl)

theorem platformStart_fst (h : Agrees r dump keys ports pump .none) (answers : StackAnswers) :
    (ports.platformStart answers).1 =
      ((!diagnosticPathIsEnabled dump || answers.hciDumpOpen) &&
        ((!diagnosticPathIsEnabled keys || answers.linkKeyDbOpen) &&
          answers.discoveryConfigure)) := by
  obtain ⟨hdump, hdumped⟩ := hciDumpStart_agrees h rfl answers
  have hhci := (hdumped.openCall (x := .runLoop) (.inl rfl) rfl).openCall (x := .hci)
    (.inr (.inl rfl)) rfl
  obtain ⟨hdb, -⟩ := linkKeyDbStart_agrees hhci rfl rfl answers
  unfold platformStart
  dsimp only
  rw [hdump, hdb]
  cases !diagnosticPathIsEnabled dump || answers.hciDumpOpen with
  | false => rfl
  | true =>
    cases !diagnosticPathIsEnabled keys || answers.linkKeyDbOpen with
    | false => rfl
    | true => cases answers.discoveryConfigure <;> rfl

end ProductionPorts

/-! ## The calls of the process -/

namespace Process

open ProductionRunner RuntimeHost

variable {process : Process}

/-- The calls of a start that is not refused at once. -/
def startCalls (answers : StartAnswers) : List ResourceCall :=
  if !answers.ipcStart then [.start .ipc false]
  else if !answers.platformStart then [.start .ipc true, .start .platform false, .stop .ipc]
  else if !answers.hidRegister then
    [.start .ipc true, .start .platform true, .start .hidRegistration false, .stop .platform,
      .stop .ipc]
  else if !answers.reportTimerStart then
    [.start .ipc true, .start .platform true, .start .hidRegistration true,
      .start .outputHandler true, .start .reportTimer false, .stop .outputHandler,
      .stop .hidRegistration, .stop .platform, .stop .ipc]
  else
    [.start .ipc true, .start .platform true, .start .hidRegistration true,
      .start .outputHandler true, .start .reportTimer true]

/-- All the parts of the process start. -/
def starts (answers : StartAnswers) : Bool :=
  answers.ipcStart && answers.platformStart && answers.hidRegister && answers.reportTimerStart

/-- The calls of a stop of a process that runs. -/
def stopCalls : List ResourceCall :=
  [.stop .reportTimer, .stop .outputHandler, .stop .hidRegistration, .stop .platform, .stop .ipc]

theorem start_calls (h : Inv process) (hinit : process.initialized = true)
    (hrunning : process.running = false) (answers : StartAnswers) :
    (process.start answers).2.runner.calls = process.runner.calls ++ startCalls answers ∧
      (process.start answers).2.running = starts answers := by
  have hconsistent := h.consistent hinit
  have hflags := h.flags
  rw [hrunning] at hflags
  obtain ⟨ipc, platform, hid, timer⟩ := answers
  cases ipc <;> cases platform <;> cases hid <;> cases timer <;>
    simp [startCalls, starts, start, hinit, hrunning, ipcStart, hconsistent.runner_initialized,
      call, RuntimeHost.start, hconsistent.initialized, hflags.running, hidRegister, Device.init,
      Device.openDevice, Device.startPlatform, stop, RuntimeHost.stop, hflags.hidRegistered,
      hflags.reportTimerStarted, hflags.outputHandlerStarted, storeNeutral, ipcStop,
      setDaemonLifecycle, outputHandlerStart, reportTimerStart, outputHandlerStop, hidStop,
      Device.closeDevice]

theorem stop_calls (h : Inv process) :
    process.stop.runner.calls =
      process.runner.calls ++ if process.running then stopCalls else [] := by
  have hflags := h.flags
  cases hinit : process.initialized with
  | false =>
    rw [stop_of_destroyed hinit, (h.destroyed hinit).2, if_neg (by decide), List.append_nil]
  | true =>
    have hconsistent := h.consistent hinit
    cases hrunning : process.running with
    | false =>
      rw [hrunning] at hflags
      simp [stop, hinit, RuntimeHost.stop, hconsistent.initialized, storeNeutral,
        hflags.hidRegistered, hflags.outputHandlerStarted, hflags.reportTimerStarted, h.ipcStarted,
        hrunning, setDaemonLifecycle]
    | true =>
      rw [hrunning] at hflags
      have hdevice := hconsistent.device hflags.hidRegistered
      cases htimer : process.runner.reportTimerInitialized <;>
        simp [stop, hinit, RuntimeHost.stop, hconsistent.initialized, storeNeutral,
          hflags.hidRegistered, hflags.outputHandlerStarted, hflags.reportTimerStarted,
          h.ipcStarted, hrunning, setDaemonLifecycle, stopCalls, reportTimerStop,
          hconsistent.runner_initialized, call, outputHandlerStop, hidStop, Device.closeDevice,
          hdevice, ipcStop, htimer]

/-- A destroy makes the calls of a stop. -/
theorem destroy_calls (h : Inv process) :
    process.destroy.runner.calls = process.stop.runner.calls := by
  obtain ⟨hinv, hrunning, -⟩ := stop_inv h
  have hflags := hinv.flags
  rw [hrunning] at hflags
  unfold destroy RuntimeHost.destroy RuntimeHost.stop
  dsimp only [storeNeutral]
  rw [hflags.reportTimerStarted, hflags.outputHandlerStarted, hflags.hidRegistered]
  split <;> rfl

end Process

/-! ## The calls of the process at the ports -/

namespace ProductionPorts

variable {r : StackResource} {dump keys : Option (List UInt8)} {ports : ProductionPorts}

/-- **Step lemma of a start**: it opens everything or nothing, or it fails late. -/
theorem startCalls_agrees (h : Agrees r dump keys ports false .none) (answers : StackAnswers) :
    let started := Process.starts (answers.toStart ports)
    let ports' := (Process.startCalls (answers.toStart ports)).foldl (perform answers) ports
    (PortedProcess.Event.KeepsHci dump keys (.start answers) →
      Agrees r dump keys ports' started (if started then Opened.running dump keys else .none)) ∧
    (¬PortedProcess.Event.KeepsHci dump keys (.start answers) →
      started = false ∧ Agrees r dump keys ports' false left) := by
  have hpump := ipcPumpStart_agrees h rfl
  have hplatform := platformStart_fst h answers
  rw [← platformStart_fst hpump answers] at hplatform
  have hkeeps : PortedProcess.Event.KeepsHci dump keys (.start answers) ↔
      (answers.ipcStart = true → answers.ClosesHci dump keys) := Iff.rfl
  rw [hkeeps]
  unfold Process.startCalls Process.starts StackAnswers.toStart
  rw [hplatform]
  cases answers.ipcStart with
  | false =>
    exact ⟨fun _ => h, fun hnot => absurd (fun hipc => absurd hipc Bool.false_ne_true) hnot⟩
  | true =>
    rcases platformStart_agrees hpump answers with
      ⟨hok, hcloses, hplatform⟩ | ⟨hfailed, hcloses, hnone⟩ | ⟨hfailed, hnot, hleft⟩
    · refine ⟨fun _ => ?_, fun hnot => absurd (fun _ => hcloses) hnot⟩
      rw [hok]
      cases answers.hidRegister with
      | false => exact ipcPumpStop_agrees (platformStop_agrees (hplatform.failedCall .hidDevice))
      | true =>
        have hhid := hplatform.openCall (x := .hidDevice) (.inr (.inr rfl)) rfl
        have hcallbacks := outputHandlerStart_agrees hhid rfl
        cases answers.reportTimerStart with
        | true => exact hcallbacks
        | false =>
          have hclosed := (outputHandlerStop_agrees hcallbacks rfl).closeCall (x := .hidDevice)
            (.inr (.inr rfl)) rfl
          exact ipcPumpStop_agrees (platformStop_agrees hclosed)
    · rw [hfailed]
      exact ⟨fun _ => ipcPumpStop_agrees hnone, fun hnot => absurd (fun _ => hcloses) hnot⟩
    · rw [hfailed]
      exact ⟨fun hkeeps => absurd (hkeeps rfl) hnot, fun _ => ⟨rfl, ipcPumpStop_agrees hleft⟩⟩

/-- **Step lemma of a stop**: it closes everything. -/
theorem stopCalls_agrees (h : Agrees r dump keys ports true (Opened.running dump keys))
    (answers : StackAnswers) :
    Agrees r dump keys (Process.stopCalls.foldl (perform answers) ports) false .none := by
  have hclosed := (outputHandlerStop_agrees h rfl).closeCall (x := .hidDevice) (.inr (.inr rfl)) rfl
  exact ipcPumpStop_agrees (platformStop_agrees hclosed)

end ProductionPorts

/-! ## Runs -/

namespace PortedProcess

open ProductionPorts (Agrees)

variable {r : StackResource} {dump keys : Option (List UInt8)} {s : PortedProcess}

/-- The invariant between the calls of the owner. -/
structure Inv (r : StackResource) (dump keys : Option (List UInt8)) (s : PortedProcess) : Prop where
  process : s.process.Inv
  agrees : Agrees r dump keys s.ports s.process.running
    (if s.process.running then Opened.running dump keys else .none)

/-- The ports perform the calls by which the log has grown. -/
theorem after_ports {answers : StackAnswers} {process : Process} {calls : List ResourceCall}
    (h : process.runner.calls = s.process.runner.calls ++ calls) :
    (s.after answers process).ports = calls.foldl (ProductionPorts.perform answers) s.ports := by
  rw [after, h, List.drop_left]

/-- A start of a process that has been destroyed, or that runs, makes no calls. -/
theorem start_idle {answers : StartAnswers}
    (h : s.process.initialized = false ∨ s.process.running = true) :
    (s.process.start answers).2 = s.process := by
  unfold Process.start
  rcases h with h | h
  · rw [h]
    rfl
  · cases s.process.initialized with
    | false => rfl
    | true =>
      rw [h]
      rfl

theorem after_self (s : PortedProcess) (answers : StackAnswers) :
    s.after answers s.process = s := by
  unfold after
  rw [List.drop_length]
  rfl

/-- The agreement of a process that is stopped. -/
theorem Inv.closed (h : Inv r dump keys s) (hrunning : s.process.running = false) :
    Agrees r dump keys s.ports false .none := by
  have hagrees := h.agrees
  rw [hrunning] at hagrees
  exact hagrees

theorem start_inv (h : Inv r dump keys s) (answers : StackAnswers)
    (hkeeps : r = .runLoop ∨ r = .hci → Event.KeepsHci dump keys (.start answers)) :
    Inv r dump keys (s.step (.start answers)) := by
  by_cases hidle : s.process.initialized = false ∨ s.process.running = true
  · have hself : s.step (.start answers) = s := by
      rw [step, start_idle hidle, after_self]
    rw [hself]
    exact h
  obtain ⟨hinit, hrunning⟩ := not_or.1 hidle
  rw [Bool.not_eq_false] at hinit
  rw [Bool.not_eq_true] at hrunning
  obtain ⟨hcalls, hstarted⟩ := Process.start_calls h.process hinit hrunning
    (answers.toStart s.ports)
  refine ⟨(Process.start_inv h.process _).1, ?_⟩
  obtain ⟨hkept, hlate⟩ := ProductionPorts.startCalls_agrees (h.closed hrunning) answers
  have hports : (s.step (.start answers)).ports = _ := after_ports hcalls
  have hrunning' : (s.step (.start answers)).process.running = _ := hstarted
  rw [hports, hrunning']
  by_cases hev : Event.KeepsHci dump keys (.start answers)
  · exact hkept hev
  · obtain ⟨hfailed, hleft⟩ := hlate hev
    rw [hfailed]
    exact hleft.of_left (not_or.1 fun hr => hev (hkeeps hr))

theorem stop_inv (h : Inv r dump keys s) {answers : StackAnswers} {process : Process}
    (hprocess : process.Inv) (hstopped : process.running = false)
    (hcalls : process.runner.calls = s.process.stop.runner.calls) :
    Inv r dump keys (s.after answers process) := by
  refine ⟨hprocess, ?_⟩
  rw [Process.stop_calls h.process] at hcalls
  rw [after_ports hcalls, show (s.after answers process).process.running = false from hstopped]
  have hagrees := h.agrees
  cases hrunning : s.process.running with
  | false => exact h.closed hrunning
  | true =>
    rw [hrunning] at hagrees
    exact ProductionPorts.stopCalls_agrees hagrees answers

/-- **Step lemma.** -/
theorem step_inv (h : Inv r dump keys s) (event : Event)
    (hkeeps : r = .runLoop ∨ r = .hci → event.KeepsHci dump keys) :
    Inv r dump keys (s.step event) := by
  cases event with
  | start answers => exact start_inv h answers hkeeps
  | stop =>
    obtain ⟨hinv, hstopped, -⟩ := Process.stop_inv h.process
    exact stop_inv h hinv hstopped rfl
  | destroy =>
    obtain ⟨hinv, hstopped, -⟩ := Process.destroy_inv h.process
    exact stop_inv h hinv hstopped (Process.destroy_calls h.process)
  | pumpTimer =>
    cases hrunning : s.process.running with
    | false =>
      -- the timer is registered only while the process runs
      have hself : s.step .pumpTimer = s := by
        rw [step, (h.closed hrunning).ipcPumpTimer]
        rfl
      rw [hself]
      exact h
    | true =>
      have hagrees := h.agrees
      rw [hrunning] at hagrees
      have hstep : s.step .pumpTimer = { s with ports := s.ports.ipcPumpTimerHandler } := by
        rw [step, hagrees.ipcPumpTimer]
        rfl
      rw [hstep]
      refine ⟨h.process, ?_⟩
      dsimp only
      rw [hrunning]
      exact ProductionPorts.ipcPumpTimerHandler_agrees hagrees rfl

theorem run_inv {events : List Event} (h : Inv r dump keys s)
    (hkeeps : r = .runLoop ∨ r = .hci → ∀ event ∈ events, event.KeepsHci dump keys) :
    Inv r dump keys (Runs.run step s events) :=
  Runs.run_invariant_of_allSteps (P := Inv r dump keys)
    (g := fun _ event => r = .runLoop ∨ r = .hci → event.KeepsHci dump keys)
    (fun _ event hs hkeeps => step_inv hs event hkeeps) h
    (Runs.allSteps_of_forall (fun _ event hmem hr => hkeeps hr event hmem) s)

theorem init_inv {runner : ProductionRunner} {process : Process}
    (hrunner : runner.initialized = true) (hprocess : Process.init runner = .ok process)
    (r : StackResource) (dump keys : Option (List UInt8)) :
    Inv r dump keys ⟨process, .init dump keys⟩ := by
  obtain ⟨hinv, hstopped, -⟩ := Process.init_inv hrunner hprocess
  refine ⟨hinv, ?_⟩
  dsimp only
  rw [hstopped]
  have hnone : false = Opened.none.has r := by cases r <;> rfl
  have hlog : Alternates r false [] (Opened.none.has r) := hnone ▸ .nil false
  exact ⟨⟨rfl, rfl, rfl, rfl, rfl⟩, hlog, rfl, rfl, rfl⟩

theorem Inv.opened_eq (h : Inv r dump keys s) :
    s.opened = if s.process.running then Opened.running dump keys else .none := by
  rw [PortedProcess.opened, h.agrees.hciDumpPath, h.agrees.linkKeyDbPath]

/-- **The stack is opened and closed in turns.** Over every run of starts, stops and destroys of the
process with the timer of the IPC pump between them, whatever the stack answers: each resource is
opened and closed in turns, and what is open, as the flags of the ports say, is everything that is
asked for while the process runs and nothing while it does not. The run loop and HCI are an
exception when a start fails after it has started HCI: it leaves both of them open. -/
theorem stack_bracketed {reportPeriodUs : UInt32} {hasIpcPump portsValid : Bool}
    {runner : ProductionRunner} {process : Process}
    (hrunner : ProductionRunner.init reportPeriodUs hasIpcPump portsValid = .ok runner)
    (hprocess : Process.init runner = .ok process) (dump keys : Option (List UInt8))
    (events : List Event) :
    let s := Runs.run step ⟨process, .init dump keys⟩ events
    (∀ r, (r = .runLoop ∨ r = .hci → ∀ event ∈ events, event.KeepsHci dump keys) →
      Alternates r false s.ports.log (s.opened.has r)) ∧
    s.ports.Shows s.opened ∧
    s.opened = (if s.process.running then Opened.running dump keys else .none) ∧
    (s.step .stop).opened = .none ∧ (s.step .destroy).opened = .none ∧
    ((∀ event ∈ events, event.KeepsHci dump keys) → s.process.initialized = true →
      s.process.running = false → ∀ answers : StackAnswers,
      ¬Event.KeepsHci dump keys (.start answers) →
        (s.step (.start answers)).process.running = false ∧
          ∀ r, r = .runLoop ∨ r = .hci →
            Alternates r false (s.step (.start answers)).ports.log true) := by
  intro s
  have hrun (r : StackResource)
      (hkeeps : r = .runLoop ∨ r = .hci → ∀ event ∈ events, event.KeepsHci dump keys) :
      Inv r dump keys s :=
    run_inv (init_inv (ProductionRunner.init_idle hrunner).1.initialized hprocess r dump keys)
      hkeeps
  have hdump : Inv .hciDump dump keys s := hrun .hciDump (by simp)
  refine ⟨fun r hkeeps => ?_, ?_, hdump.opened_eq, ?_, ?_, ?_⟩
  · have h := hrun r hkeeps
    rw [h.opened_eq]
    exact h.agrees.alternates
  · rw [hdump.opened_eq]
    exact hdump.agrees.toShows
  · obtain ⟨-, hstopped, -⟩ := Process.stop_inv hdump.process
    exact if_neg (by rw [show (s.step .stop).process = s.process.stop from rfl, hstopped]; decide)
  · obtain ⟨-, hstopped, -⟩ := Process.destroy_inv hdump.process
    exact if_neg (by
      rw [show (s.step .destroy).process = s.process.destroy from rfl, hstopped]; decide)
  · intro hkept hinit hrunning answers hev
    obtain ⟨hcalls, hstarted⟩ := Process.start_calls hdump.process hinit hrunning
      (answers.toStart s.ports)
    have hlate (r : StackResource) := (ProductionPorts.startCalls_agrees
      ((hrun r fun _ => hkept).closed hrunning) answers).2 hev
    refine ⟨hstarted.trans (hlate .hci).1, fun r hr => ?_⟩
    rw [show (s.step (.start answers)).ports = _ from after_ports hcalls]
    have hleft : ProductionPorts.left.has r = true := by
      rcases hr with rfl | rfl <;> rfl
    exact hleft ▸ (hlate r).2.alternates

/-- A failed registration, then a start with the timer of the pump; and a start whose discovery is
not configured. -/
theorem stack_bracketed_after_failed_registration :
    ∃ runner, ProductionRunner.init 8000 true true = .ok runner ∧
      ∃ process, Process.init runner = .ok process ∧
        (∀ r, Alternates r false (Runs.run step
            ⟨process, .init (some (CString.bytes "hci.txt")) (some (CString.bytes "keys.tlv"))⟩
            [.start ⟨true, true, true, true, false, true⟩,
              .start ⟨true, true, true, true, true, true⟩, .pumpTimer]).ports.log true) ∧
        Alternates .hci false (step
          ⟨process, .init none (some (CString.bytes "keys.tlv"))⟩
          (.start ⟨true, true, true, false, true, true⟩)).ports.log true := by
  have hinit : ProductionRunner.init 8000 true true = _ := rfl
  have hbracketed := stack_bracketed hinit rfl
  refine ⟨_, hinit, _, rfl, fun r => ?_, ?_⟩
  · obtain ⟨hturns, -, hopened, -⟩ := hbracketed (some (CString.bytes "hci.txt"))
      (some (CString.bytes "keys.tlv")) [.start ⟨true, true, true, true, false, true⟩,
        .start ⟨true, true, true, true, true, true⟩, .pumpTimer]
    have hall := hturns r fun _ event hevent => by
      simp only [List.mem_cons, List.not_mem_nil, or_false] at hevent
      rcases hevent with rfl | rfl | rfl
      · exact fun _ _ => ⟨fun _ => rfl, rfl⟩
      · exact fun _ _ => ⟨fun _ => rfl, rfl⟩
      · trivial
    rw [hopened.trans (if_pos rfl)] at hall
    have hopen : (Opened.running (some (CString.bytes "hci.txt"))
        (some (CString.bytes "keys.tlv"))).has r = true := by cases r <;> rfl
    exact hopen ▸ hall
  · obtain ⟨-, -, -, -, -, hlate⟩ := hbracketed none (some (CString.bytes "keys.tlv")) []
    exact (hlate (by simp) rfl rfl ⟨true, true, true, false, true, true⟩ (fun h => by
      have hdiscovery := (h rfl (by decide)).2
      exact absurd hdiscovery (by decide))).2 .hci (.inr rfl)

end PortedProcess

end Swbt
