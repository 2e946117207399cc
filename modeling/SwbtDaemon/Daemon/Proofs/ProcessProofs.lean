import SwbtDaemon.Daemon.Process
import SwbtDaemon.Lib.Runs

/-!
# Proofs: the daemon process starts and stops its resources in brackets

`Appends` is what a function adds to the log of the runner: nested calls on resources of the
process, from what is held before it to what is held after it. Each function of the backend has one
lemma; those of the runtime host and of the process put them together.
-/

namespace Swbt

open Brackets (Nested Alternates)

/-- A function that adds nested calls to the log of the runner. -/
structure Appends (runner runner' : ProductionRunner) (held held' : List Resource) : Prop where
  log : ∃ more, runner'.calls = runner.calls ++ more ∧ Nested held more held' ∧
    ∀ c ∈ more, c.resource ∈ processResources
  initialized : runner'.initialized = runner.initialized
  hardwarePowered : runner'.hardwarePowered = runner.hardwarePowered

namespace ProductionRunner

variable {runner : ProductionRunner} {held : List Resource}

theorem appends_refl (runner : ProductionRunner) (held : List Resource) :
    Appends runner runner held held :=
  ⟨⟨[], (List.append_nil _).symm, .nil held, by simp⟩, rfl, rfl⟩

theorem appends_trans {runner runner' runner'' : ProductionRunner}
    {held held' held'' : List Resource} (h : Appends runner runner' held held')
    (h' : Appends runner' runner'' held' held'') : Appends runner runner'' held held'' := by
  obtain ⟨⟨more, hcalls, hnested, hmem⟩, hinit, hpower⟩ := h
  obtain ⟨⟨more', hcalls', hnested', hmem'⟩, hinit', hpower'⟩ := h'
  refine ⟨⟨more ++ more', ?_, hnested.append hnested', ?_⟩, hinit'.trans hinit,
    hpower'.trans hpower⟩
  · rw [hcalls', hcalls, List.append_assoc]
  · intro c hc
    rcases List.mem_append.1 hc with hc | hc
    · exact hmem c hc
    · exact hmem' c hc

theorem call_start_appends (runner : ProductionRunner) {r : Resource}
    (hr : r ∈ processResources) (hheld : r ∉ held) :
    Appends runner (runner.call (.start r true)) held (r :: held) :=
  ⟨⟨[.start r true], rfl, .start hheld (.nil _), List.forall_mem_singleton.2 hr⟩, rfl, rfl⟩

theorem call_failed_appends (runner : ProductionRunner) (held : List Resource) {r : Resource}
    (hr : r ∈ processResources) :
    Appends runner (runner.call (.start r false)) held held :=
  ⟨⟨[.start r false], rfl, .failed (.nil _), List.forall_mem_singleton.2 hr⟩, rfl, rfl⟩

theorem call_stop_appends (runner : ProductionRunner) (held : List Resource) {r : Resource}
    (hr : r ∈ processResources) :
    Appends runner (runner.call (.stop r)) (r :: held) held :=
  ⟨⟨[.stop r], rfl, .stop (.nil _), List.forall_mem_singleton.2 hr⟩, rfl, rfl⟩

/-! ## The backend -/

theorem ipcStart_appends (hinit : runner.initialized = true) (hipc : .ipc ∉ held)
    (answers : StartAnswers) :
    (runner.ipcStart answers).1 = answers.ipcStart ∧
      Appends runner (runner.ipcStart answers).2 held
        (if answers.ipcStart then .ipc :: held else held) := by
  unfold ipcStart
  rw [hinit, Bool.true_and]
  refine ⟨rfl, ?_⟩
  cases answers.ipcStart with
  | false => exact call_failed_appends runner held (by decide)
  | true => exact call_start_appends runner (by decide) hipc

theorem ipcStop_appends (runner : ProductionRunner) (held : List Resource) :
    Appends runner runner.ipcStop (.ipc :: held) held :=
  call_stop_appends runner held (by decide)

/-- A registration that succeeds opens the device. -/
theorem hidRegister_appends (hinit : runner.initialized = true) (hplatform : .platform ∉ held)
    (hhid : .hidRegistration ∉ held) (answers : StartAnswers) :
    ((runner.hidRegister answers).1 = true ∧
        (runner.hidRegister answers).2.device = ⟨true, true, true⟩ ∧
        Appends runner (runner.hidRegister answers).2 held
          (.hidRegistration :: .platform :: held)) ∨
      ((runner.hidRegister answers).1 = false ∧
        Appends runner (runner.hidRegister answers).2 held held) := by
  obtain ⟨ipc, platform, hid, timer⟩ := answers
  unfold hidRegister
  rw [if_neg (by simp [hinit])]
  cases platform with
  | false =>
    exact .inr ⟨rfl, ⟨[.start .platform false], rfl, .failed (.nil _), by decide⟩, rfl, rfl⟩
  | true =>
    cases hid with
    | false =>
      exact .inr ⟨rfl, ⟨[.start .platform true, .start .hidRegistration false, .stop .platform],
        rfl, .start hplatform (.failed (.stop (.nil _))), by decide⟩, rfl, rfl⟩
    | true =>
      have hfresh : .hidRegistration ∉ Resource.platform :: held := by simp [hhid]
      exact .inl ⟨rfl, rfl, ⟨[.start .platform true, .start .hidRegistration true], rfl,
        .start hplatform (.start hfresh (.nil _)), by decide⟩, rfl, rfl⟩

theorem hidStop_appends (hinit : runner.initialized = true)
    (hdevice : runner.device = ⟨true, true, true⟩) :
    Appends runner runner.hidStop (.hidRegistration :: .platform :: held) held := by
  unfold hidStop
  rw [if_neg (by simp [hinit]), hdevice]
  exact ⟨⟨[.stop .hidRegistration, .stop .platform], rfl, .stop (.stop (.nil _)), by decide⟩, rfl,
    rfl⟩

theorem outputHandlerStart_appends (runner : ProductionRunner) (hoh : .outputHandler ∉ held) :
    Appends runner runner.outputHandlerStart held (.outputHandler :: held) :=
  call_start_appends runner (by decide) hoh

theorem outputHandlerStop_appends (runner : ProductionRunner) (held : List Resource) :
    Appends runner runner.outputHandlerStop (.outputHandler :: held) held :=
  call_stop_appends runner held (by decide)

/-- A start of the report timer leaves the device alone. -/
theorem reportTimerStart_appends (hinit : runner.initialized = true)
    (htimer : .reportTimer ∉ held) (answers : StartAnswers) :
    (runner.reportTimerStart answers).1 = answers.reportTimerStart ∧
      (runner.reportTimerStart answers).2.device = runner.device ∧
      Appends runner (runner.reportTimerStart answers).2 held
        (if answers.reportTimerStart then .reportTimer :: held else held) := by
  unfold reportTimerStart
  rw [hinit, Bool.true_and]
  refine ⟨rfl, rfl, ?_⟩
  cases answers.reportTimerStart with
  | false =>
    obtain ⟨hlog, hinit, hpower⟩ := call_failed_appends runner held
      (r := .reportTimer) (by decide)
    exact ⟨hlog, hinit, hpower⟩
  | true =>
    obtain ⟨hlog, hinit, hpower⟩ := call_start_appends runner (by decide) htimer
    exact ⟨hlog, hinit, hpower⟩

theorem reportTimerStop_appends (runner : ProductionRunner) (held : List Resource) :
    runner.reportTimerStop.device = runner.device ∧
      Appends runner runner.reportTimerStop (.reportTimer :: held) held := by
  obtain ⟨hlog, hinit, hpower⟩ := call_stop_appends runner held (r := .reportTimer)
    (by decide)
  unfold reportTimerStop
  dsimp only
  split
  · exact ⟨rfl, hlog, hinit, hpower⟩
  · exact ⟨rfl, hlog, hinit, hpower⟩

end ProductionRunner

open ProductionRunner

/-! ## The runtime host -/

namespace RuntimeHost

variable {runtime : RuntimeHost} {runner : ProductionRunner}

/-- The flags of an initialized runtime host agree with its runner. The report timer is started
last, and stopped first. -/
structure Consistent (runtime : RuntimeHost) (runner : ProductionRunner) : Prop where
  initialized : runtime.initialized = true
  runner_initialized : runner.initialized = true
  device : runtime.hidRegistered = true → runner.device = ⟨true, true, true⟩
  output : runtime.outputHandlerStarted = runtime.hidRegistered
  timer : runtime.reportTimerStarted = true → runtime.hidRegistered = true

/-- What the runtime host holds, latest first. -/
def held (runtime : RuntimeHost) : List Resource :=
  (if runtime.reportTimerStarted then [.reportTimer] else []) ++
    (if runtime.hidRegistered then [.outputHandler, .hidRegistration, .platform] else [])

/-- The runtime host with all its parts started, or none. -/
structure Flags (runtime : RuntimeHost) (started : Bool) : Prop where
  running : runtime.running = started
  hidRegistered : runtime.hidRegistered = started
  outputHandlerStarted : runtime.outputHandlerStarted = started
  reportTimerStarted : runtime.reportTimerStarted = started

/-- A runtime host without anything started agrees with every runner. -/
theorem Flags.consistent (h : Flags runtime false) (hruntime : runtime.initialized = true)
    (hinit : runner.initialized = true) : Consistent runtime runner := by
  refine ⟨hruntime, hinit, fun hhid => ?_, ?_, fun htimer => ?_⟩
  · exact absurd (h.hidRegistered.symm.trans hhid) (by simp)
  · exact h.outputHandlerStarted.trans h.hidRegistered.symm
  · exact absurd (h.reportTimerStarted.symm.trans htimer) (by simp)

theorem Flags.held_nil (h : Flags runtime false) : runtime.held = [] := by
  unfold RuntimeHost.held
  rw [h.reportTimerStarted, h.hidRegistered]
  rfl

theorem Flags.held_all (h : Flags runtime true) :
    runtime.held = [.reportTimer, .outputHandler, .hidRegistration, .platform] := by
  unfold RuntimeHost.held
  rw [h.reportTimerStarted, h.hidRegistered]
  rfl

/-- Neither depends on the domain. -/
theorem Flags.withApp {started : Bool} (h : Flags runtime started) (app : Option Domain) :
    Flags { runtime with app := app } started :=
  ⟨h.running, h.hidRegistered, h.outputHandlerStarted, h.reportTimerStarted⟩

theorem Consistent.withApp (h : Consistent runtime runner) (app : Option Domain) :
    Consistent { runtime with app := app } runner :=
  ⟨h.initialized, h.runner_initialized, h.device, h.output, h.timer⟩

/-- A stop unwinds what is held. -/
theorem stop_appends (h : Consistent runtime runner) (below : List Resource) :
    Consistent (runtime.stop runner).1 (runtime.stop runner).2 ∧
      Flags (runtime.stop runner).1 false ∧
      Appends runner (runtime.stop runner).2 (runtime.held ++ below) below := by
  unfold stop
  rw [if_neg (by simp [h.initialized])]
  have hhid : runtime.storeNeutral.hidRegistered = runtime.hidRegistered := rfl
  have houtput : runtime.storeNeutral.outputHandlerStarted = runtime.hidRegistered := h.output
  have htimer : runtime.storeNeutral.reportTimerStarted = runtime.reportTimerStarted := rfl
  have hinit := h.runner_initialized
  dsimp only
  rw [hhid, houtput, htimer]
  unfold RuntimeHost.held
  cases hregistered : runtime.hidRegistered with
  | false =>
    have hnot : runtime.reportTimerStarted = false := by
      by_contra hstarted
      have hregistered' := h.timer (by simpa using hstarted)
      rw [hregistered] at hregistered'
      exact absurd hregistered' (by simp)
    rw [hnot]
    exact ⟨⟨h.initialized, hinit, (nomatch ·), rfl, (nomatch ·)⟩, ⟨rfl, rfl, rfl, rfl⟩,
      appends_refl runner below⟩
  | true =>
    have hdevice := h.device hregistered
    have hunwind : ∀ runner : ProductionRunner, runner.initialized = true →
        runner.device = ⟨true, true, true⟩ →
          runner.outputHandlerStop.hidStop.initialized = true ∧
          Appends runner runner.outputHandlerStop.hidStop
            ([.outputHandler, .hidRegistration, .platform] ++ below) below := by
      intro runner hinit hdevice
      have hoh := outputHandlerStop_appends runner (.hidRegistration :: .platform :: below)
      have hall := appends_trans hoh (hidStop_appends (hoh.initialized.trans hinit) hdevice)
      exact ⟨hall.initialized.trans hinit, hall⟩
    cases htimer' : runtime.reportTimerStarted with
    | false =>
      obtain ⟨hinit', hall⟩ := hunwind runner hinit hdevice
      exact ⟨⟨h.initialized, hinit', (nomatch ·), rfl, (nomatch ·)⟩, ⟨rfl, rfl, rfl, rfl⟩, hall⟩
    | true =>
      obtain ⟨hkept, htimerStop⟩ := reportTimerStop_appends runner
        ([.outputHandler, .hidRegistration, .platform] ++ below)
      obtain ⟨hinit', hall⟩ := hunwind runner.reportTimerStop
        (htimerStop.initialized.trans hinit) (hkept.trans hdevice)
      exact ⟨⟨h.initialized, hinit', (nomatch ·), rfl, (nomatch ·)⟩, ⟨rfl, rfl, rfl, rfl⟩,
        appends_trans htimerStop hall⟩

/-- A start whose registration is refused. -/
theorem start_of_refused (h : Consistent runtime runner) (hflags : Flags runtime false)
    {answers : StartAnswers} (hrefused : (runner.hidRegister answers).1 = false) :
    runtime.start runner answers = (.backend, runtime, (runner.hidRegister answers).2) := by
  unfold start
  rw [if_neg (by simp [h.initialized]), if_neg (by simp [hflags.running])]
  dsimp only
  rw [hrefused]
  rfl

/-- A start whose registration is accepted depends on the report timer. -/
theorem start_of_registered (h : Consistent runtime runner) (hflags : Flags runtime false)
    {answers : StartAnswers} (hregistered : (runner.hidRegister answers).1 = true) :
    runtime.start runner answers =
      let timer := (runner.hidRegister answers).2.outputHandlerStart.reportTimerStart answers
      let partly := { runtime with hidRegistered := true, outputHandlerStarted := true }
      if timer.1 then (.ok, { partly with reportTimerStarted := true, running := true }, timer.2)
      else (.backend, partly.stop timer.2) := by
  unfold start
  rw [if_neg (by simp [h.initialized]), if_neg (by simp [hflags.running])]
  dsimp only
  rw [hregistered]
  cases ((runner.hidRegister answers).2.outputHandlerStart.reportTimerStart answers).1 with
  | false => rfl
  | true => rfl

/-- A start starts everything, or unwinds what it has started. -/
theorem start_appends (h : Consistent runtime runner) (hflags : Flags runtime false)
    {below : List Resource} (hfresh : ∀ r ∈ below, r = .ipc) (answers : StartAnswers) :
    Consistent (runtime.start runner answers).2.1 (runtime.start runner answers).2.2 ∧
      Appends runner (runtime.start runner answers).2.2 below
        ((runtime.start runner answers).2.1.held ++ below) ∧
      ∃ started, Flags (runtime.start runner answers).2.1 started ∧
        ((runtime.start runner answers).1 = .ok ↔ started = true) := by
  have hnot : ∀ r, r ≠ .ipc → r ∉ below := fun r hr hmem => hr (hfresh r hmem)
  rcases hidRegister_appends h.runner_initialized (hnot .platform (by decide))
    (hnot .hidRegistration (by decide)) answers with ⟨hok, hdevice, hreg⟩ | ⟨hrefused, hreg⟩
  · have hoh : .outputHandler ∉ Resource.hidRegistration :: .platform :: below := by
      have hbelow := hnot .outputHandler (by decide)
      simpa using hbelow
    have hrt : .reportTimer ∉ Resource.outputHandler :: .hidRegistration :: .platform :: below := by
      have hbelow := hnot .reportTimer (by decide)
      simpa using hbelow
    have houtput := appends_trans hreg (outputHandlerStart_appends _ hoh)
    obtain ⟨hresult, hkept, htimer⟩ := reportTimerStart_appends
      (houtput.initialized.trans h.runner_initialized) hrt answers
    have hall := appends_trans houtput htimer
    have hinit := hall.initialized.trans h.runner_initialized
    rw [start_of_registered h hflags hok]
    dsimp only
    by_cases hstarted : answers.reportTimerStart = true
    · rw [if_pos (hresult.trans hstarted)]
      rw [if_pos hstarted] at hall
      exact ⟨⟨h.initialized, hinit, fun _ => hkept.trans hdevice, rfl, fun _ => rfl⟩, hall, true,
        ⟨rfl, rfl, rfl, rfl⟩, by simp⟩
    · have hpartly : Consistent
          { runtime with hidRegistered := true, outputHandlerStarted := true } _ :=
        ⟨h.initialized, hinit, fun _ => hkept.trans hdevice, rfl, fun _ => rfl⟩
      obtain ⟨hconsistent, hnone, hstop⟩ := stop_appends hpartly below
      rw [if_neg (by rw [hresult]; exact hstarted)]
      rw [if_neg hstarted] at hall
      refine ⟨hconsistent, ?_, false, hnone, by simp⟩
      have hheld : RuntimeHost.held
          { runtime with hidRegistered := true, outputHandlerStarted := true } =
          [.outputHandler, .hidRegistration, .platform] := by
        unfold RuntimeHost.held
        dsimp only
        rw [hflags.reportTimerStarted]
        rfl
      rw [hheld] at hstop
      rw [hnone.held_nil, List.nil_append]
      exact appends_trans hall hstop
  · rw [start_of_refused h hflags hrefused]
    refine ⟨⟨h.initialized, hreg.initialized.trans h.runner_initialized, ?_, h.output, h.timer⟩,
      ?_, false, hflags, by simp⟩
    · intro hregistered
      exact absurd (hflags.hidRegistered.symm.trans hregistered) (by simp)
    · rw [hflags.held_nil]
      exact hreg

end RuntimeHost

/-! ## The process -/

namespace Process

open RuntimeHost (Consistent Flags)

variable {process : Process}

/-- The invariant between the calls of the owner: everything is started, or nothing. -/
structure Inv (process : Process) : Prop where
  consistent : process.initialized = true → Consistent process.runtime process.runner
  destroyed : process.initialized = false →
    process.runtime.initialized = false ∧ process.running = false
  flags : Flags process.runtime process.running
  ipcStarted : process.ipcStarted = process.running

/-- What the process holds between the calls. -/
def held (process : Process) : List Resource := if process.running then processResources else []

theorem held_of_stopped (h : process.running = false) : process.held = [] := by
  rw [held, h]
  rfl

theorem init_inv {runner : ProductionRunner} (hrunner : runner.initialized = true)
    (h : Process.init runner = .ok process) :
    Inv process ∧ process.running = false ∧ process.runner = runner := by
  unfold Process.init RuntimeHost.init at h
  split at h
  · exact absurd h (by simp)
  · cases happ : Domain.init with
    | error error =>
      rw [happ] at h
      exact absurd h (by simp)
    | ok app =>
      rw [happ] at h
      obtain rfl := Except.ok.inj h
      exact ⟨⟨fun _ => ⟨rfl, hrunner, (nomatch ·), rfl, (nomatch ·)⟩, (nomatch ·),
        ⟨rfl, rfl, rfl, rfl⟩, rfl⟩, rfl, rfl⟩

/-- A stop unwinds what is held, also in the middle of a start. -/
theorem stop_appends (process : Process) (hinit : process.initialized = true)
    (h : Consistent process.runtime process.runner) :
    Inv process.stop ∧ process.stop.running = false ∧
      Appends process.runner process.stop.runner
        (process.runtime.held ++ if process.ipcStarted then [.ipc] else []) [] := by
  obtain ⟨hconsistent, hflags, hstop⟩ :=
    RuntimeHost.stop_appends h (if process.ipcStarted then [.ipc] else [])
  have hall : Appends process.runner (if process.ipcStarted then
      (process.runtime.stop process.runner).2.ipcStop else (process.runtime.stop process.runner).2)
        (process.runtime.held ++ if process.ipcStarted then [.ipc] else []) [] := by
    by_cases hipc : process.ipcStarted = true
    · rw [if_pos hipc] at hstop
      rw [if_pos hipc, if_pos hipc]
      exact appends_trans hstop (ipcStop_appends _ [])
    · rw [if_neg hipc] at hstop
      rw [if_neg hipc, if_neg hipc]
      exact hstop
  unfold stop
  rw [if_neg (by simp [hinit])]
  dsimp only [setDaemonLifecycle]
  have hflags' : Flags { (process.runtime.stop process.runner).1 with
      app := (process.runtime.stop process.runner).1.app.map fun app =>
        (app.setDaemonLifecycle .stopped).2 } false := hflags.withApp _
  exact ⟨⟨fun _ => hflags'.consistent hconsistent.initialized
      (hall.initialized.trans h.runner_initialized),
    fun hfalse => absurd (hinit.symm.trans hfalse) (by simp), hflags', rfl⟩, rfl, hall⟩

theorem stop_of_destroyed (h : process.initialized = false) : process.stop = process := by
  rw [stop, if_pos (by simp [h])]

/-- What is held between the calls is what a stop unwinds. -/
theorem Inv.held_eq (h : Inv process) :
    process.held = process.runtime.held ++ if process.ipcStarted then [.ipc] else [] := by
  have hflags := h.flags
  rw [held, h.ipcStarted]
  cases hrunning : process.running with
  | false =>
    rw [hrunning] at hflags
    rw [hflags.held_nil]
    rfl
  | true =>
    rw [hrunning] at hflags
    rw [hflags.held_all]
    rfl

theorem stop_inv (h : Inv process) :
    Inv process.stop ∧ process.stop.running = false ∧
      Appends process.runner process.stop.runner process.held [] := by
  cases hinit : process.initialized with
  | false =>
    obtain ⟨-, hrunning⟩ := h.destroyed hinit
    rw [stop_of_destroyed hinit, held_of_stopped hrunning]
    exact ⟨h, hrunning, appends_refl _ []⟩
  | true =>
    rw [h.held_eq]
    exact stop_appends process hinit (h.consistent hinit)

theorem destroy_inv (h : Inv process) :
    Inv process.destroy ∧ process.destroy.running = false ∧
      Appends process.runner process.destroy.runner process.held [] := by
  obtain ⟨hinv, hrunning, hstop⟩ := stop_inv h
  have hflags := hinv.flags
  rw [hrunning] at hflags
  have hagain : Appends process.stop.runner
      (process.stop.runtime.stop process.stop.runner).2 [] [] := by
    cases hinit : process.stop.initialized with
    | false =>
      obtain ⟨hruntime, -⟩ := hinv.destroyed hinit
      rw [RuntimeHost.stop, if_pos (by simp [hruntime])]
      exact appends_refl _ []
    | true =>
      have hnone := (RuntimeHost.stop_appends (hinv.consistent hinit) []).2.2
      rw [hflags.held_nil] at hnone
      exact hnone
  refine ⟨⟨(nomatch ·), fun _ => ⟨rfl, hrunning⟩, ?_, hinv.ipcStarted⟩, hrunning,
    appends_trans hstop hagain⟩
  change Flags RuntimeHost.zero process.stop.running
  rw [hrunning]
  exact ⟨rfl, rfl, rfl, rfl⟩

theorem start_of_refused (hinit : process.initialized = true) (hrunning : process.running = false)
    {answers : StartAnswers} (hrefused : (process.runner.ipcStart answers).1 = false) :
    process.start answers =
      (.backend, { process with runner := (process.runner.ipcStart answers).2 }) := by
  unfold start
  rw [if_neg (by simp [hinit]), if_neg (by simp [hrunning])]
  dsimp only
  rw [hrefused]
  rfl

/-- A start whose IPC is started depends on the runtime host. -/
theorem start_of_ipcStarted (hinit : process.initialized = true)
    (hrunning : process.running = false) {answers : StartAnswers}
    (hipc : (process.runner.ipcStart answers).1 = true) :
    process.start answers =
      let runtime := process.runtime.start (process.runner.ipcStart answers).2 answers
      let partly := { process with
        runtime := runtime.2.1
        runner := runtime.2.2
        ipcStarted := true }
      if runtime.1 = .ok then (.ok, { partly.setDaemonLifecycle .running with running := true })
      else (.backend, partly.stop) := by
  unfold start
  rw [if_neg (by simp [hinit]), if_neg (by simp [hrunning])]
  dsimp only
  rw [hipc, if_neg (by simp)]
  by_cases hok : (process.runtime.start (process.runner.ipcStart answers).2 answers).1 = .ok
  · rw [if_pos hok, if_neg (by simp [hok])]
  · rw [if_neg hok, if_pos hok]

/-- A start without the IPC starts nothing. -/
theorem start_refused_inv (h : Inv process) (hinit : process.initialized = true)
    (hrunning : process.running = false) {answers : StartAnswers}
    (hrefused : answers.ipcStart = false) :
    Inv (process.start answers).2 ∧ (process.start answers).2.running = false ∧
      Appends process.runner (process.start answers).2.runner [] [] := by
  have hconsistent := h.consistent hinit
  have hflags := h.flags
  rw [hrunning] at hflags
  obtain ⟨hresult, hipc⟩ := ipcStart_appends hconsistent.runner_initialized
    (List.not_mem_nil (a := Resource.ipc)) answers
  rw [hrefused, if_neg (by simp)] at hipc
  rw [start_of_refused hinit hrunning (hresult.trans hrefused)]
  refine ⟨⟨fun _ => ?_, fun hfalse => ?_, h.flags, h.ipcStarted⟩, hrunning, hipc⟩
  · exact hflags.consistent hconsistent.initialized
      (hipc.initialized.trans hconsistent.runner_initialized)
  · exact absurd (hinit.symm.trans hfalse) (by simp)

/-- A start with the IPC starts everything, or unwinds what it has started. -/
theorem start_ipcStarted_inv (h : Inv process) (hinit : process.initialized = true)
    (hrunning : process.running = false) {answers : StartAnswers}
    (hok : answers.ipcStart = true) :
    Inv (process.start answers).2 ∧
      Appends process.runner (process.start answers).2.runner []
        (process.start answers).2.held ∧
      ((process.start answers).1 ≠ .ok → (process.start answers).2.running = false) := by
  have hconsistent := h.consistent hinit
  have hflags := h.flags
  rw [hrunning] at hflags
  obtain ⟨hresult, hipc⟩ := ipcStart_appends hconsistent.runner_initialized
    (List.not_mem_nil (a := Resource.ipc)) answers
  rw [if_pos hok] at hipc
  have hconsistent' : Consistent process.runtime (process.runner.ipcStart answers).2 :=
    hflags.consistent hconsistent.initialized
      (hipc.initialized.trans hconsistent.runner_initialized)
  obtain ⟨hafter, hruntime, started, hflags', hiff⟩ :=
    RuntimeHost.start_appends hconsistent' hflags (fun _ => List.mem_singleton.1) answers
  have hboth := appends_trans hipc hruntime
  rw [start_of_ipcStarted hinit hrunning (hresult.trans hok)]
  dsimp only
  cases started with
  | true =>
    rw [if_pos (hiff.2 rfl)]
    rw [hflags'.held_all] at hboth
    exact ⟨⟨fun _ => hafter.withApp _, fun hfalse => absurd (hinit.symm.trans hfalse) (by simp),
      hflags'.withApp _, rfl⟩, hboth, fun hne => absurd rfl hne⟩
  | false =>
    rw [if_neg (fun h => absurd (hiff.1 h) (by simp))]
    rw [hflags'.held_nil] at hboth
    obtain ⟨hinv, hstopped, hunwound⟩ := stop_appends { process with
      runtime := (process.runtime.start (process.runner.ipcStart answers).2 answers).2.1
      runner := (process.runtime.start (process.runner.ipcStart answers).2 answers).2.2
      ipcStarted := true } hinit hafter
    rw [hflags'.held_nil] at hunwound
    refine ⟨hinv, ?_, fun _ => hstopped⟩
    rw [held_of_stopped hstopped]
    exact appends_trans hboth hunwound

/-- A start starts everything, or unwinds what it has started. -/
theorem start_inv (h : Inv process) (answers : StartAnswers) :
    Inv (process.start answers).2 ∧
      Appends process.runner (process.start answers).2.runner process.held
        (process.start answers).2.held ∧
      ((process.start answers).1 ≠ .ok → (process.start answers).2.running = false) := by
  cases hinit : process.initialized with
  | false =>
    rw [start, if_pos (by simp [hinit])]
    exact ⟨h, appends_refl _ _, fun _ => (h.destroyed hinit).2⟩
  | true =>
    cases hrunning : process.running with
    | true =>
      rw [start, if_neg (by simp [hinit]), if_pos hrunning]
      exact ⟨h, appends_refl _ _, fun hne => absurd rfl hne⟩
    | false =>
      rw [held_of_stopped hrunning]
      cases hipc : answers.ipcStart with
      | false =>
        obtain ⟨hinv, hstopped, happends⟩ := start_refused_inv h hinit hrunning hipc
        rw [held_of_stopped hstopped]
        exact ⟨hinv, happends, fun _ => hstopped⟩
      | true => exact start_ipcStarted_inv h hinit hrunning hipc

/-- **Step lemma**: a call of the owner adds nested calls to the log. -/
theorem step_inv (h : Inv process) (op : Op) :
    Inv (process.step op) ∧
      Appends process.runner (process.step op).runner process.held (process.step op).held := by
  cases op with
  | start answers =>
    obtain ⟨hinv, happends, -⟩ := start_inv h answers
    exact ⟨hinv, happends⟩
  | stop =>
    obtain ⟨hinv, hstopped, happends⟩ := stop_inv h
    have hnone : (process.step .stop).held = [] := held_of_stopped hstopped
    rw [hnone]
    exact ⟨hinv, happends⟩
  | destroy =>
    obtain ⟨hinv, hstopped, happends⟩ := destroy_inv h
    have hnone : (process.step .destroy).held = [] := held_of_stopped hstopped
    rw [hnone]
    exact ⟨hinv, happends⟩

/-- **Run lemma**: so does every list of calls. -/
theorem run_inv (h : Inv process) (ops : List Op) :
    Inv (Runs.run step process ops) ∧
      Appends process.runner (Runs.run step process ops).runner process.held
        (Runs.run step process ops).held :=
  Runs.run_invariant
    (P := fun process' => Inv process' ∧
      Appends process.runner process'.runner process.held process'.held)
    (fun _ op hprocess' =>
      ⟨(step_inv hprocess'.1 op).1, appends_trans hprocess'.2 (step_inv hprocess'.1 op).2⟩)
    ⟨h, appends_refl _ _⟩ ops

/-- Between the calls the process runs exactly when all its parts are started. -/
theorem Inv.running_iff (h : Inv process) : process.running = true ↔ process.AllStarted := by
  have hipc := h.ipcStarted
  obtain ⟨-, hhid, houtput, htimer⟩ := h.flags
  unfold AllStarted
  rw [hipc, hhid, houtput, htimer]
  simp

end Process

end Swbt
