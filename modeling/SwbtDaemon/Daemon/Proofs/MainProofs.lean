import SwbtDaemon.Daemon.Main
import SwbtDaemon.Daemon.Proofs.ProcessProofs
import SwbtDaemon.Daemon.Proofs.ShutdownProofs

/-!
# Proofs: the lifecycle of the production daemon is bracketed

The power is turned off once for each time it was turned on, by the run loop or after it; with the
brackets of the process this gives the brackets of the main function.
-/

namespace Swbt

open Brackets (Nested Alternates)

/-! ## The power during a shutdown -/

namespace Shutdown

variable {τ ι : Type*} {port : HostPort τ ι} {s s' s'' : Shutdown τ}

/-- The shutdown comes from `s` to `s'`, and turns the power off at most once, when it is on. -/
def Powers (s s' : Shutdown τ) : Prop :=
  ∃ more, s'.calls = s.calls ++ more ∧
    Alternates .power s.hardwarePowered (more.filterMap ProductionRunner.powerCall)
      s'.hardwarePowered

theorem Powers.same (hcalls : s'.calls = s.calls)
    (hpower : s'.hardwarePowered = s.hardwarePowered) : Powers s s' :=
  ⟨[], by rw [hcalls, List.append_nil], by rw [hpower]; exact .nil _⟩

theorem Powers.trans (h : Powers s s') (h' : Powers s' s'') : Powers s s'' := by
  obtain ⟨more, hcalls, halt⟩ := h
  obtain ⟨more', hcalls', halt'⟩ := h'
  refine ⟨more ++ more', by rw [hcalls', hcalls, List.append_assoc], ?_⟩
  rw [List.filterMap_append]
  exact halt.append halt'

/-- Routine calls leave the power alone. -/
theorem Continues.powers (h : Continues s s') : Powers s s' := by
  obtain ⟨more, hcalls, hmore⟩ := h.calls
  refine ⟨more, hcalls, ?_⟩
  have hnone : more.filterMap ProductionRunner.powerCall = [] := by
    apply List.filterMap_eq_nil_iff.2
    intro c hc
    have hne := (hmore c hc).1
    cases c <;> first | rfl | exact absurd rfl hne
  rw [hnone, h.power]
  exact .nil _

theorem powerOff_powers (s : Shutdown τ) :
    Powers s s.powerOff ∧ s.powerOff.hardwarePowered = false := by
  have hcancel := (cancelActiveReconnectTimeoutTimer_continues s).powers
  unfold powerOff
  dsimp only
  by_cases hpower : s.cancelActiveReconnectTimeoutTimer.hardwarePowered = true
  · rw [if_pos hpower]
    refine ⟨hcancel.trans ⟨[.powerOff], rfl, ?_⟩, rfl⟩
    rw [hpower]
    exact .stop (.nil _)
  · rw [if_neg hpower]
    exact ⟨hcancel, by simpa using hpower⟩

theorem call_powers (s : Shutdown τ) {c : PortCall} (hc : c ≠ .powerOff) : Powers s (s.call c) := by
  refine ⟨[c], rfl, ?_⟩
  cases c <;> first | exact .nil _ | exact absurd rfl hc

theorem exit_powers (s : Shutdown τ) : Powers s s.exit := by
  have hcancel : Powers s s.cancelShutdownDisconnectTimer := by
    unfold cancelShutdownDisconnectTimer
    split
    · exact (call_powers s (by simp)).trans (.same rfl rfl)
    · exact .same rfl rfl
  exact hcancel.trans ((powerOff_powers _).1.trans (call_powers _ (by simp)))

theorem powers_keptByCalls (s : Shutdown τ) : KeptByCalls (Powers s) where
  same h hcalls hpower _ _ := h.trans (.same hcalls hpower)
  disconnect h _ := h.trans (call_powers _ (by simp))
  arm h := h.trans (armShutdownDisconnectTimer_continues _).powers
  exit h := h.trans (exit_powers _)
  cancelActive h := h.trans (cancelActiveReconnectTimeoutTimer_continues _).powers

/-- **Step lemma**: every event of the shutdown turns the power off only when it is on. -/
theorem step_powers (s : Shutdown τ) (event : Event ι) : Powers s (s.step port event) := by
  by_cases hrequest : event = .request
  · subst hrequest
    simp only [step, request]
    split
    · exact .same rfl rfl
    · exact (Powers.same rfl rfl).trans (call_powers _ (by simp))
  · exact (powers_keptByCalls s).step port (.same rfl rfl) hrequest

theorem deliver_powers (s : Shutdown τ) (event : MainEvent τ ι) :
    Powers s (s.deliver port event) := by
  cases event with
  | shutdown event => exact step_powers s event
  | activeReconnectTimeout reportFailed =>
    simp only [deliver, activeReconnectTimeout]
    split
    · exact .same rfl rfl
    · exact .same rfl rfl
  | host handle => exact .same rfl rfl

theorem run_powers (port : HostPort τ ι) (s : Shutdown τ) (events : List (MainEvent τ ι)) :
    Powers s (Runs.run (deliver port) s events) :=
  Runs.run_invariant (fun s' event h => h.trans (deliver_powers s' event)) (.same rfl rfl) events

end Shutdown

/-! ## What the daemon holds -/

/-- The resources of the process that are held, latest first, and whether the other two are. -/
structure Holding where
  process : List Resource
  power : Bool
  shutdownListener : Bool

/-- Nothing is held. -/
def Holding.none : Holding := ⟨[], false, false⟩

/-- A function whose calls go from what is held before it to what is held after it. -/
structure Extends (runner runner' : ProductionRunner) (before after : Holding) : Prop where
  log : ∃ more, runner'.calls = runner.calls ++ more ∧
    Nested before.process (more.filter (·.resource.ofProcess)) after.process ∧
    Alternates .power before.power more after.power ∧
    Alternates .shutdownListener before.shutdownListener more after.shutdownListener
  initialized : runner'.initialized = runner.initialized

namespace ProductionRunner

variable {τ ι : Type*} {port : HostPort τ ι} {runner runner' runner'' : ProductionRunner}

theorem extends_refl (runner : ProductionRunner) (holding : Holding) :
    Extends runner runner holding holding :=
  ⟨⟨[], (List.append_nil _).symm, .nil _, .nil _, .nil _⟩, rfl⟩

theorem extends_trans {a b c : Holding} (h : Extends runner runner' a b)
    (h' : Extends runner' runner'' b c) : Extends runner runner'' a c := by
  obtain ⟨⟨more, hcalls, hnested, hpower, hlistener⟩, hinit⟩ := h
  obtain ⟨⟨more', hcalls', hnested', hpower', hlistener'⟩, hinit'⟩ := h'
  refine ⟨⟨more ++ more', by rw [hcalls', hcalls, List.append_assoc], ?_,
    hpower.append hpower', hlistener.append hlistener'⟩, hinit'.trans hinit⟩
  rw [List.filter_append]
  exact hnested.append hnested'

/-- The calls of the process leave the power and the listener alone. -/
theorem extends_of_appends {held held' : List Resource} (h : Appends runner runner' held held')
    (power listener : Bool) :
    Extends runner runner' ⟨held, power, listener⟩ ⟨held', power, listener⟩ := by
  obtain ⟨⟨more, hcalls, hnested, hmem⟩, hinit, -⟩ := h
  have hother : ∀ r, r ∉ processResources → ∀ c ∈ more, c.resource ≠ r := by
    rintro r hr c hc rfl
    exact hr (hmem c hc)
  refine ⟨⟨more, hcalls, ?_, Brackets.alternates_of_forall (hother .power (by decide)) _,
    Brackets.alternates_of_forall (hother .shutdownListener (by decide)) _⟩, hinit⟩
  have hall : more.filter (·.resource.ofProcess) = more :=
    List.filter_eq_self.2 fun c hc => decide_eq_true (hmem c hc)
  rw [hall]
  exact hnested

/-- What the shutdown does to the power is all that it does to the log. -/
theorem absorb_extends {s s' : Shutdown τ} (h : Shutdown.Powers s s') (hcalls : s.calls = [])
    (runner : ProductionRunner) (held : List Resource) (listener : Bool) :
    Extends runner (runner.absorb s') ⟨held, s.hardwarePowered, listener⟩
      ⟨held, s'.hardwarePowered, listener⟩ := by
  obtain ⟨more, hmore, halt⟩ := h
  rw [hcalls, List.nil_append] at hmore
  have honly : ∀ c ∈ s'.calls.filterMap powerCall, c = .stop .power := by
    intro c hc
    obtain ⟨call, -, hcall⟩ := List.mem_filterMap.1 hc
    cases call <;> simp_all [powerCall]
  refine ⟨⟨s'.calls.filterMap powerCall, rfl, ?_, by rw [hmore]; exact halt,
    Brackets.alternates_of_forall (fun c hc => ?_) _⟩, rfl⟩
  · have hnone : (s'.calls.filterMap powerCall).filter (·.resource.ofProcess) = [] := by
      apply List.filter_eq_nil_iff.2
      intro c hc
      rw [honly c hc]
      decide
    rw [hnone]
    exact .nil _
  · rw [honly c hc]
    decide

/-! ## The main function -/

theorem installListener_extends (runner : ProductionRunner) (listener : ShutdownListener)
    (installs : Bool) (held : List Resource) (power : Bool) :
    let (result, runner') := runner.installListener listener installs
    runner'.device = runner.device ∧
      Extends runner runner' ⟨held, power, false⟩
        ⟨held, power, decide (listener = .complete) && decide (result = .ok)⟩ := by
  cases listener with
  | complete =>
    cases installs with
    | false =>
      exact ⟨rfl, ⟨[.start .shutdownListener false], rfl, .nil _,
        .other (by decide) (.nil _), .failed (.nil _)⟩, rfl⟩
    | true =>
      exact ⟨rfl, ⟨[.start .shutdownListener true], rfl, .nil _,
        .other (by decide) (.nil _), .start (.nil _)⟩, rfl⟩
  | _ => exact ⟨rfl, extends_refl _ _⟩

theorem uninstallListener_extends (runner : ProductionRunner) (listener : ShutdownListener)
    (held : List Resource) (power : Bool) :
    Extends runner (runner.uninstallListener listener)
      ⟨held, power, decide (listener = .complete)⟩ ⟨held, power, false⟩ := by
  cases listener with
  | complete =>
    exact ⟨⟨[.stop .shutdownListener], rfl, .nil _, .other (by decide) (.nil _),
      .stop (.nil _)⟩, rfl⟩
  | _ => exact extends_refl _ _

theorem uninstallListener_device (runner : ProductionRunner) (listener : ShutdownListener) :
    (runner.uninstallListener listener).device = runner.device := by
  cases listener <;> rfl

/-- The run loop of a powered runner, and the listener around it. -/
theorem runPowered_extends (port : HostPort τ ι) (runner : ProductionRunner)
    (listener : ShutdownListener) (input : MainInput τ ι) (held : List Resource) :
    let ran := runner.runPowered port listener input
    ran.2.1.calls = [] ∧ ran.2.2.device = runner.device ∧
      Extends runner ran.2.2 ⟨held, true, false⟩ ⟨held, ran.2.1.hardwarePowered, false⟩ := by
  have hinstall := installListener_extends runner listener input.listenerInstalls held true
  unfold runPowered
  generalize runner.installListener listener input.listenerInstalls = installed at hinstall
  obtain ⟨result, runner'⟩ := installed
  obtain ⟨hdevice, hinstall⟩ := hinstall
  dsimp only
  by_cases hok : result = .ok
  · rw [if_neg (by simp [hok])]
    rw [decide_eq_true hok, Bool.and_true] at hinstall
    have hrun := absorb_extends (Shutdown.run_powers port
      (Shutdown.prepared input.host input.reconnecting) input.events) rfl runner' held
      (decide (listener = .complete))
    exact ⟨rfl, (uninstallListener_device _ listener).trans hdevice,
      extends_trans hinstall (extends_trans hrun (uninstallListener_extends _ listener held _))⟩
  · rw [if_pos hok]
    rw [decide_eq_false hok, Bool.and_false] at hinstall
    exact ⟨rfl, hdevice, hinstall⟩

theorem powerOn_extends (runner : ProductionRunner) (on : Bool) (held : List Resource) :
    let (result, runner') := runner.powerOn on
    runner'.device = runner.device ∧
      (on = false → runner'.hardwarePowered = runner.hardwarePowered) ∧
      (result = .ok ↔ on = true) ∧
      Extends runner runner' ⟨held, false, false⟩ ⟨held, on, false⟩ := by
  cases on with
  | false =>
    exact ⟨rfl, fun _ => rfl, by simp, ⟨[.start .power false], rfl, .nil _,
      .failed (.nil _), .other (by decide) (.nil _)⟩, rfl⟩
  | true =>
    exact ⟨rfl, (nomatch ·), by simp, ⟨[.start .power true], rfl, .nil _,
      .start (.nil _), .other (by decide) (.nil _)⟩, rfl⟩

/-- The run loop leaves the process as it is, with another domain. -/
theorem resume_inv {process : Process} (h : process.Inv) (runner : ProductionRunner)
    (hdevice : runner.device = process.runner.device)
    (hinit : runner.initialized = process.runner.initialized) (app : Option Domain) :
    (process.resume runner app).Inv := by
  refine ⟨fun hprocess => ?_, h.destroyed, h.flags.withApp app, h.ipcStarted⟩
  have hconsistent := h.consistent hprocess
  exact ⟨hconsistent.initialized, hinit.trans hconsistent.runner_initialized,
    fun hregistered => hdevice.trans (hconsistent.device hregistered), hconsistent.output,
    hconsistent.timer⟩

/-- The runner between two calls of its owner: nothing is held. -/
structure Idle (runner : ProductionRunner) : Prop where
  initialized : runner.initialized = true
  powered : runner.hardwarePowered = false

/-- The main function until the power is turned off. -/
theorem powered_extends (port : HostPort τ ι) (runner : ProductionRunner)
    (hpower : runner.hardwarePowered = false) (listener : ShutdownListener) (input : MainInput τ ι)
    (held : List Resource) :
    let powered := runner.powerOn input.powerOn
    let ran :=
      if powered.1 = .ok then powered.2.runPowered port listener input
      else (powered.1, powered.2.unpowered input.host, powered.2)
    ran.2.1.calls = [] ∧ ran.2.2.device = runner.device ∧
      Extends runner ran.2.2 ⟨held, false, false⟩ ⟨held, ran.2.1.hardwarePowered, false⟩ := by
  have hon := powerOn_extends runner input.powerOn held
  generalize runner.powerOn input.powerOn = powered at hon
  obtain ⟨result, runner'⟩ := powered
  obtain ⟨hdevice, hoff, hiff, hon⟩ := hon
  dsimp only
  cases hinput : input.powerOn with
  | false =>
    rw [if_neg (fun hok => absurd ((hiff.1 hok).symm.trans hinput) (by simp))]
    rw [hinput] at hon
    have hsame : (runner'.unpowered input.host).hardwarePowered = false :=
      (hoff hinput).trans hpower
    refine ⟨rfl, hdevice, ?_⟩
    rw [hsame]
    exact hon
  | true =>
    rw [if_pos (hiff.2 hinput)]
    rw [hinput] at hon
    obtain ⟨hcalls, hdevice', hran⟩ := runPowered_extends port runner' listener input held
    exact ⟨hcalls, hdevice'.trans hdevice, extends_trans hon hran⟩

/-- The part of the main function in which the process is started. -/
theorem runStarted_extends (port : HostPort τ ι) {process : Process} (h : process.Inv)
    (hpower : process.runner.hardwarePowered = false)
    (listener : ShutdownListener) (input : MainInput τ ι) :
    let runner' := (runStarted port process listener input).2
    runner'.hardwarePowered = false ∧
      Extends process.runner runner' ⟨process.held, false, false⟩ .none := by
  have hran := powered_extends port process.runner hpower listener input process.held
  unfold runStarted
  dsimp only at hran ⊢
  generalize hpart : (if (process.runner.powerOn input.powerOn).1 = .ok then
    (process.runner.powerOn input.powerOn).2.runPowered port listener input
    else ((process.runner.powerOn input.powerOn).1,
      (process.runner.powerOn input.powerOn).2.unpowered input.host,
      (process.runner.powerOn input.powerOn).2)) = ran at hran
  obtain ⟨result, s, runner'⟩ := ran
  obtain ⟨hcalls, hdevice, hran⟩ := hran
  obtain ⟨hoff, hunpowered⟩ := Shutdown.powerOff_powers s
  have hoffExtends := absorb_extends hoff hcalls runner' process.held false
  have hinv := resume_inv h (runner'.absorb s.powerOff) hdevice hran.initialized input.app
  obtain ⟨-, -, hdestroy⟩ := Process.destroy_inv hinv
  rw [hunpowered] at hoffExtends
  exact ⟨hdestroy.hardwarePowered.trans hunpowered, extends_trans (extends_trans hran hoffExtends)
    (extends_of_appends hdestroy false false)⟩

theorem setHardwareApproval_inv {process : Process} (h : process.Inv)
    (approval : HardwareApproval) :
    (process.setHardwareApproval approval).2.Inv ∧
      (process.setHardwareApproval approval).2.running = process.running ∧
      (process.setHardwareApproval approval).2.runner = process.runner := by
  unfold Process.setHardwareApproval
  cases process.runtime.app with
  | none => exact ⟨h, rfl, rfl⟩
  | some app =>
    exact ⟨resume_inv h process.runner rfl rfl _, rfl, rfl⟩

theorem idle_of_appends (h : Idle runner) (happends : Appends runner runner' [] []) :
    Idle runner' ∧ Extends runner runner' .none .none :=
  ⟨⟨happends.initialized.trans h.initialized, happends.hardwarePowered.trans h.powered⟩,
    extends_of_appends happends false false⟩

/-- **Step lemma**: a run of the main function takes back everything that it has started. -/
theorem main_extends (port : HostPort τ ι) (h : Idle runner) (listener : ShutdownListener)
    (input : MainInput τ ι) :
    let runner' := (runner.mainWithRunnerAndShutdown port listener input).2
    Idle runner' ∧ Extends runner runner' .none .none := by
  unfold mainWithRunnerAndShutdown
  split
  · exact ⟨h, extends_refl _ _⟩
  · split
    · exact ⟨h, extends_refl _ _⟩
    · split
      · exact ⟨h, extends_refl _ _⟩
      · cases hprocess : Process.init runner with
        | error error => exact ⟨h, extends_refl _ _⟩
        | ok process =>
          obtain ⟨hfresh, hstopped, rfl⟩ := Process.init_inv h.initialized hprocess
          obtain ⟨hinv, hrunning, hrunner⟩ := setHardwareApproval_inv hfresh .approved
          dsimp only
          generalize (process.setHardwareApproval .approved).2 = process' at hinv hrunning hrunner ⊢
          have hnone := Process.held_of_stopped (hrunning.trans hstopped)
          rw [← hrunner] at h ⊢
          split
          · obtain ⟨-, -, hdestroy⟩ := Process.destroy_inv hinv
            rw [hnone] at hdestroy
            exact idle_of_appends h hdestroy
          · obtain ⟨hinv', hstart, -⟩ := Process.start_inv hinv input.start
            rw [hnone] at hstart
            split
            · obtain ⟨-, -, hdestroy⟩ := Process.destroy_inv hinv'
              exact idle_of_appends h (appends_trans hstart hdestroy)
            · obtain ⟨hoff, hstarted⟩ := runStarted_extends port hinv'
                (hstart.hardwarePowered.trans h.powered) listener input
              have hall := extends_trans (extends_of_appends hstart false false) hstarted
              exact ⟨⟨hall.initialized.trans h.initialized, hoff⟩, hall⟩

/-- **Run lemma**: between the calls of its owner a runner holds nothing. -/
theorem run_extends (port : HostPort τ ι) (h : Idle runner) (ops : List (Op τ ι)) :
    Idle (Runs.run (step port) runner ops) ∧
      Extends runner (Runs.run (step port) runner ops) .none .none := by
  refine Runs.run_invariant (P := fun runner' => Idle runner' ∧ Extends runner runner' .none .none)
    (fun runner' op hrunner => ?_) ⟨h, extends_refl _ _⟩ ops
  obtain ⟨hidle, hextends⟩ := hrunner
  cases op with
  | setAdapterLocationConfigured =>
    simp only [step, setAdapterLocationConfigured]
    split
    · exact ⟨hidle, hextends⟩
    · exact ⟨⟨hidle.initialized, hidle.powered⟩, hextends.log, hextends.initialized⟩
  | main listener input =>
    obtain ⟨hidle', hextends'⟩ := main_extends port hidle listener input
    exact ⟨hidle', extends_trans hextends hextends'⟩

/-! ## Brackets -/

theorem init_idle {reportPeriodUs : UInt32} {hasIpcPump portsValid : Bool}
    (h : ProductionRunner.init reportPeriodUs hasIpcPump portsValid = .ok runner) :
    Idle runner ∧ runner.calls = [] := by
  unfold ProductionRunner.init at h
  split at h
  · exact absurd h (by simp)
  · obtain rfl := Except.ok.inj h
    exact ⟨⟨rfl, rfl⟩, rfl⟩

/-- What is held of the process, and nothing else, is held after a log from the beginning. -/
theorem bracketed_of_extends {held : List Resource} (hcalls : runner.calls = [])
    (hheld : ∀ r ∈ held, r ∈ processResources)
    (h : Extends runner runner' .none ⟨held, false, false⟩) : Bracketed runner'.calls held := by
  obtain ⟨⟨more, hmore, hnested, hpower, hlistener⟩, -⟩ := h
  rw [hcalls, List.nil_append] at hmore
  rw [hmore]
  have hprocess : ∀ r, r.ofProcess = true → Alternates r false more (decide (r ∈ held)) :=
    fun r hr => Brackets.alternates_of_filter hr (hnested.alternates List.nodup_nil r)
  have hother : ∀ r, r ∉ processResources → decide (r ∈ held) = false :=
    fun r hr => decide_eq_false fun hmem => hr (hheld r hmem)
  refine ⟨hnested, fun r => ?_⟩
  cases r with
  | power =>
    rw [hother .power (by decide)]
    exact hpower
  | shutdownListener =>
    rw [hother .shutdownListener (by decide)]
    exact hlistener
  | _ => exact hprocess _ (by decide)

theorem bracketed_of_appends {held : List Resource} (hcalls : runner.calls = [])
    (hheld : ∀ r ∈ held, r ∈ processResources) (h : Appends runner runner' [] held) :
    Bracketed runner'.calls held :=
  bracketed_of_extends hcalls hheld (extends_of_appends h false false)

/-- **The lifecycle is bracketed.** Over every list of starts, stops and destroys of the process,
whatever the ports answer: each resource is started and stopped in turns, in the reverse order, the
process runs between the calls exactly when all its parts are started, and nothing is held after a
stop, a destroy or a failed start. Nothing is held either when the main function returns, however
often it runs and whatever happens in its run loop. -/
theorem lifecycle_bracketed {reportPeriodUs : UInt32} {hasIpcPump portsValid : Bool}
    (h : ProductionRunner.init reportPeriodUs hasIpcPump portsValid = .ok runner) :
    (∀ process, Process.init runner = .ok process → ∀ ops : List Process.Op,
      let process' := Runs.run Process.step process ops
      Bracketed process'.runner.calls (if process'.running then processResources else []) ∧
        (process'.running = true ↔ process'.AllStarted) ∧
        Bracketed process'.stop.runner.calls [] ∧
        Bracketed process'.destroy.runner.calls [] ∧
        ∀ answers, (process'.start answers).1 ≠ .ok →
          Bracketed (process'.start answers).2.runner.calls []) ∧
    ∀ (port : HostPort τ ι) (ops : List (Op τ ι)),
      Bracketed (Runs.run (step port) runner ops).calls [] := by
  obtain ⟨hidle, hcalls⟩ := init_idle h
  constructor
  · intro process hprocess ops process'
    obtain ⟨hfresh, hstopped, rfl⟩ := Process.init_inv hidle.initialized hprocess
    obtain ⟨hinv, hrun⟩ := Process.run_inv hfresh ops
    rw [Process.held_of_stopped hstopped] at hrun
    have hheld : ∀ r ∈ process'.held, r ∈ processResources := by
      intro r hr
      unfold Process.held at hr
      split at hr
      · exact hr
      · exact absurd hr List.not_mem_nil
    refine ⟨bracketed_of_appends hcalls hheld hrun, hinv.running_iff, ?_, ?_, ?_⟩
    · exact bracketed_of_appends hcalls (by simp)
        (appends_trans hrun (Process.stop_inv hinv).2.2)
    · exact bracketed_of_appends hcalls (by simp)
        (appends_trans hrun (Process.destroy_inv hinv).2.2)
    · intro answers hfailed
      obtain ⟨-, hstart, hnone⟩ := Process.start_inv hinv answers
      rw [Process.held_of_stopped (hnone hfailed)] at hstart
      exact bracketed_of_appends hcalls (by simp) (appends_trans hrun hstart)
  · intro port ops
    exact bracketed_of_extends hcalls (by simp) (run_extends port hidle ops).2

/-- A failed registration, then a start and a stop; and a run of the main function with a listener
whose run loop turns the power off. -/
theorem lifecycle_bracketed_after_failed_registration :
    ∃ runner, ProductionRunner.init 8000 true true = .ok runner ∧
      ∃ process, Process.init runner = .ok process ∧
        Bracketed (Runs.run Process.step process
          [.start ⟨true, true, false, true⟩, .start ⟨true, true, true, true⟩]).stop.runner.calls
          [] ∧
        Bracketed (Runs.run (step (⟨id, fun _ => 0, fun _ _ _ => true, fun host _ => (0, host),
          fun host _ => (.ok, host), fun _ => false, fun _ => rfl,
          fun _ _ => rfl⟩ : HostPort Bool Unit)) runner
          [.setAdapterLocationConfigured, .main .complete ⟨⟨true, true, true, true⟩, true, false,
            true, false, [.shutdown .request, .shutdown (.callback () .refused)],
            none⟩]).calls [] := by
  have hinit : ProductionRunner.init 8000 true true = _ := rfl
  obtain ⟨hprocess, hmain⟩ := lifecycle_bracketed (τ := Bool) (ι := Unit) hinit
  exact ⟨_, rfl, _, rfl, (hprocess _ rfl _).2.2.1, hmain _ _⟩

end ProductionRunner

end Swbt
