import SwbtDaemon.Api.Table
import SwbtDaemon.Control.Proofs.DirectProofs
import SwbtDaemon.Lib.Pairs
import SwbtDaemon.Lib.Traces

/-!
# Proofs: the C interface

Each open handle has a domain of its own, of which the direct client is the only possible owner, so
that every submission is accepted as long as its sequence number does not wrap around. So the calls
answer as the table of the open handles says, and nothing stays allocated but the open handles and
their domains.
-/

namespace Swbt

open Domain

namespace CApi

/-! ## Submitting to one handle -/

/-- When nobody but the direct client can own the lease, a submission stores its state. -/
theorem submitState_of_ours {control : Control} {submissions : Nat}
    (hinv : Direct.Inv submissions ⟨control, none⟩)
    (hours : control.app.OwnedAtMostBy Control.directClientId) (hcount : submissions + 1 < 2 ^ 64)
    (state : State) :
    let r := control.submitState state
    r.1 = .ok ∧ r.2.app.state = state ∧ Direct.Inv (submissions + 1) ⟨r.2, none⟩ ∧
      r.2.app.OwnedAtMostBy Control.directClientId ∧
      r.2.readRuntimeStatus = control.readRuntimeStatus := by
  intro r
  have hr : r = Direct.uninterrupted control state := Direct.submitState_eq_uninterrupted _ _
  rcases Direct.begin_cases control state with ⟨-, hbegin⟩ | ⟨hbusy, -⟩
  swap
  · exact absurd hours hbusy
  have hfinish : r = Direct.finish (control.stepApp (.acquire Control.directClientId)) state := by
    rw [hr]
    unfold Direct.uninterrupted
    rw [hbegin]
  have hcall : Direct.Inv (submissions + 1)
      ⟨control.stepApp (.acquire Control.directClientId), some state⟩ := by
    have h := hinv.call state
    have hstep : Direct.step ⟨control, none⟩ (.call state) = (Direct.begin control state).2 := rfl
    rw [hstep, hbegin] at h
    exact h
  have hacquired := hours.step_ofClient (Op.OfClient.acquire)
  have hset := hacquired.step_ofClient
    (Op.OfClient.setState state (control.nextDirectSequence + 1))
  have hnext := hcall.finish hcount
  rw [Direct.step_finish rfl] at hnext
  rcases hcall.finish_cases rfl hcount with ⟨-, hstate, hstored⟩ | ⟨hlost, -⟩
  · rw [hfinish]
    refine ⟨?_, ?_, hnext, ?_, ?_⟩
    · rw [hstored]
    · rw [hstored]
      exact hstate
    · exact hset
    · rw [hstored]
      rfl
  · -- the lease is the direct client's since the first half
    have hheld : (control.app.acquire Control.directClientId).2.lease.HeldBy
        Control.directClientId := by
      by_cases hown : control.app.lease.hasOwner = true
      · rw [acquire_of_heldBy ⟨hown, hours hown⟩]
        exact ⟨hown, hours hown⟩
      · rw [acquire_of_free (Bool.eq_false_iff.2 hown)]
        exact ⟨rfl, rfl⟩
    have haccepted := setState_of_accepted hheld state (hcall.not_stale rfl hcount hheld)
    have hok : Domain.Result.notOwner = .ok := hlost.symm.trans (congrArg Prod.fst haccepted)
    cases hok

/-! ## Reading and writing memory -/

variable {memory : Memory} {table : Table}

theorem Memory.find_eq_some {swbt : Nat} {handle : Handle} {app : Domain} :
    memory.find swbt = some (handle, app) ↔
      memory swbt = some (.handle handle) ∧ memory handle.app = some (.domain app) := by
  unfold Memory.find
  constructor
  · intro h
    split at h
    · next handle' hblock =>
      split at h
      · next app' hdomain =>
        obtain ⟨rfl, rfl⟩ := Prod.mk.inj (Option.some.inj h)
        exact ⟨hblock, hdomain⟩
      · cases h
    · cases h
  · rintro ⟨hblock, hdomain⟩
    rw [hblock]
    dsimp only
    rw [hdomain]

/-! ## Memory and table -/

/-- The handle and its domain are those of the entry. -/
structure Holds (entry : Entry) (handle : Handle) (app : Domain) : Prop where
  state : app.state = toInternalState entry.state
  counted : Direct.Inv entry.submissions ⟨handle.control app, none⟩
  ours : app.OwnedAtMostBy Control.directClientId
  reader : handle.readRuntimeStatus = none

theorem handle_ne_domain (handle : Handle) (app : Domain) : Block.handle handle ≠ .domain app :=
  fun h => by cases h

/-- The memory holds the open handles of the table, each with a domain of its own, and nothing
else. -/
def Represents (memory : Memory) (table : Table) : Prop :=
  ∃ pairs, Pairs.Paired Block.handle Block.domain Handle.app memory pairs ∧
    ∀ swbt, Option.Rel (fun entry pair => Holds entry pair.1 pair.2) (table swbt) (pairs swbt)

theorem Represents.empty : Represents (fun _ => none) (fun _ => none) :=
  ⟨fun _ => none, Pairs.Paired.empty, fun _ => .none⟩

/-- Every block is an open handle or its domain. -/
theorem Represents.covered (h : Represents memory table) {a : Nat} (ha : memory a ≠ none) :
    ∃ swbt handle, table swbt ≠ none ∧ memory swbt = some (.handle handle) ∧
      (a = swbt ∨ a = handle.app) := by
  obtain ⟨pairs, hpaired, hrel⟩ := h
  obtain ⟨swbt, pair, hpair, hor⟩ := hpaired.covered a ha
  refine ⟨swbt, pair.1, fun hnone => ?_, hpaired.owner swbt pair.1 pair.2 hpair, hor⟩
  have hswbt := hrel swbt
  rw [hnone, hpair] at hswbt
  cases hswbt

/-- With no open handle nothing is allocated. -/
theorem Represents.memory_eq_empty (h : Represents memory table) (hclosed : ∀ a, table a = none) :
    memory = fun _ => none := by
  obtain ⟨pairs, hpaired, hrel⟩ := h
  refine hpaired.heap_eq_empty fun swbt => ?_
  have hswbt := hrel swbt
  rw [hclosed swbt] at hswbt
  generalize pairs swbt = pair at hswbt
  cases hswbt
  rfl

/-- An open handle is found with its domain. -/
theorem Represents.find (h : Represents memory table) {swbt : Nat} {entry : Entry}
    (hentry : table swbt = some entry) :
    ∃ handle app, memory.find swbt = some (handle, app) ∧ Holds entry handle app := by
  obtain ⟨pairs, hpaired, hrel⟩ := h
  have hswbt := hrel swbt
  rw [hentry] at hswbt
  obtain ⟨pair, hpair, hholds⟩ := Pairs.rel_some hswbt
  exact ⟨pair.1, pair.2, Memory.find_eq_some.2
    ⟨hpaired.owner swbt pair.1 pair.2 hpair, hpaired.resource swbt pair.1 pair.2 hpair⟩, hholds⟩

/-- What is found at an open handle is its pair. -/
theorem pair_of_find {pairs : Nat → Option (Handle × Domain)} {swbt : Nat} {entry : Entry}
    {handle : Handle} {app : Domain}
    (hpaired : Pairs.Paired Block.handle Block.domain Handle.app memory pairs)
    (hrel : Option.Rel (fun entry pair => Holds entry pair.1 pair.2) (some entry) (pairs swbt))
    (hfind : memory.find swbt = some (handle, app)) : pairs swbt = some (handle, app) := by
  obtain ⟨⟨handle', app'⟩, hpair, -⟩ := Pairs.rel_some hrel
  have hfind' : memory.find swbt = some (handle', app') := Memory.find_eq_some.2
    ⟨hpaired.owner swbt handle' app' hpair, hpaired.resource swbt handle' app' hpair⟩
  rw [hpair, hfind'.symm.trans hfind]

/-! ## The calls -/

/-- A handle that is opened has a new domain. -/
theorem Represents.openHandle (h : Represents memory table) {swbt block : Nat}
    (hswbt : memory swbt = none) (hblock : memory block = none) (hne : block ≠ swbt)
    (spi : Spi.Flash) :
    Represents
      (Function.update (Function.update memory block (some (.domain (initWith spi)))) swbt
        (some (.handle ⟨block, none, 0⟩)))
      (Function.update table swbt (some ⟨neutralState, 0⟩)) := by
  obtain ⟨pairs, hpaired, hrel⟩ := h
  refine ⟨_, hpaired.alloc (x := ⟨block, none, 0⟩) (initWith spi) hne hswbt hblock,
    Pairs.rel_update hrel swbt (.some ?_)⟩
  exact ⟨rfl, Direct.init_inv spi none, fun hown => absurd hown Bool.false_ne_true, rfl⟩

/-- A handle that is closed takes its domain with it. -/
theorem Represents.close (h : Represents memory table) {swbt : Nat} {entry : Entry}
    (hentry : table swbt = some entry) {handle : Handle} {app : Domain}
    (hfind : memory.find swbt = some (handle, app)) :
    Represents (Function.update (Function.update memory handle.app none) swbt none)
      (Function.update table swbt none) := by
  obtain ⟨pairs, hpaired, hrel⟩ := h
  have hpair := pair_of_find hpaired (hentry ▸ hrel swbt) hfind
  exact ⟨_, hpaired.free handle_ne_domain hpair, Pairs.rel_update hrel swbt .none⟩

/-- A submission to an open handle is accepted, and changes that handle alone. -/
theorem Represents.submit (h : Represents memory table) {swbt : Nat} {entry : Entry}
    (hentry : table swbt = some entry) (hcount : entry.submissions + 1 < 2 ^ 64)
    (state : ControllerState) :
    ∃ handle app, memory.find swbt = some (handle, app) ∧
      ((handle.control app).submitState (toInternalState state)).1 = .ok ∧
      Represents
        (memory.write swbt handle ((handle.control app).submitState (toInternalState state)).2)
        (table.submit swbt state) := by
  obtain ⟨handle, app, hfind, hholds⟩ := h.find hentry
  obtain ⟨hok, hstate, hcounted, hours, hreader⟩ :=
    submitState_of_ours hholds.counted hholds.ours hcount (toInternalState state)
  refine ⟨handle, app, hfind, hok, ?_⟩
  obtain ⟨pairs, hpaired, hrel⟩ := h
  have hpair := pair_of_find hpaired (hentry ▸ hrel swbt) hfind
  refine ⟨_, hpaired.write handle_ne_domain hpair _ rfl, ?_⟩
  unfold Table.submit
  rw [hentry]
  exact Pairs.rel_update hrel swbt (.some ⟨hstate, hcounted, hours, hreader.trans hholds.reader⟩)

/-- **Step lemma.** A permitted call answers as the table says. -/
theorem Represents.perform (h : Represents memory table) {call : Call}
    (hfresh : Fresh (some memory) call) (hpermitted : table.Permitted call) :
    ∃ memory', CApi.perform memory call = some (table.answer call, memory') ∧
      Represents memory' (table.step call) := by
  cases call with
  | openHandle out handle domain =>
    obtain ⟨hhandle, hdomain⟩ := hfresh memory rfl
    obtain ⟨spi, hinit⟩ := init_ok
    cases out with
    | false => exact ⟨memory, rfl, h⟩
    | true =>
      cases handle with
      | none => exact ⟨memory, rfl, h⟩
      | some swbt =>
        cases domain with
        | none =>
          have hfreed : Function.update memory swbt none = memory := by
            rw [← hhandle swbt rfl, Function.update_eq_self]
          exact ⟨Function.update memory swbt none, rfl, by rw [hfreed]; exact h⟩
        | some block =>
          obtain ⟨hblock, hne⟩ := hdomain block rfl
          refine ⟨_, ?_, h.openHandle (hhandle swbt rfl) hblock (fun heq => hne (by rw [heq])) spi⟩
          simp only [CApi.perform, CApi.openHandle, domainCreate, hinit]
          rfl
  | close swbt =>
    cases swbt with
    | none => exact ⟨memory, rfl, h⟩
    | some swbt =>
      obtain ⟨entry, hentry⟩ := hpermitted swbt rfl
      obtain ⟨handle, app, hfind, -⟩ := h.find hentry
      refine ⟨_, ?_, h.close hentry hfind⟩
      simp only [CApi.perform, CApi.close, hfind, Option.map_some]
      rfl
  | submitState swbt state =>
    cases swbt with
    | none => exact ⟨memory, rfl, h⟩
    | some swbt =>
      cases state with
      | none => exact ⟨memory, rfl, h⟩
      | some state =>
        obtain ⟨entry, hentry, hcount⟩ := hpermitted swbt rfl
        obtain ⟨handle, app, hfind, hok, hafter⟩ := h.submit hentry hcount state
        refine ⟨_, ?_, hafter⟩
        simp only [CApi.perform, CApi.submitState, hfind, Option.map_some, hok]
        rfl
  | submitNeutral swbt =>
    cases swbt with
    | none => exact ⟨memory, rfl, h⟩
    | some swbt =>
      obtain ⟨entry, hentry, hcount⟩ := hpermitted swbt rfl
      obtain ⟨handle, app, hfind, hok, hafter⟩ := h.submit hentry hcount neutralState
      have hneutral : (handle.control app).submitNeutral =
          (handle.control app).submitState (toInternalState neutralState) := rfl
      refine ⟨_, ?_, hafter⟩
      simp only [CApi.perform, CApi.submitNeutral, hfind, Option.map_some, hneutral, hok]
      rfl
  | getStatus swbt out =>
    cases swbt with
    | none => exact ⟨memory, rfl, h⟩
    | some swbt =>
      cases out with
      | false => exact ⟨memory, rfl, h⟩
      | true =>
        obtain ⟨entry, hentry⟩ := hpermitted swbt rfl
        obtain ⟨handle, app, hfind, hholds⟩ := h.find hentry
        refine ⟨memory, ?_, h⟩
        have hstatus : (handle.control app).getStatus = .ok ⟨app.readStatus, none⟩ := by
          unfold Control.getStatus Handle.control
          rw [hholds.reader]
        have hstate : fromInternalState app.readStatus.state = entry.state := by
          rw [show app.readStatus.state = app.state from rfl, hholds.state,
            fromInternalState_toInternalState]
        simp only [CApi.perform, CApi.getStatus, hfind, Option.map_some, hstatus, hstate,
          Table.answer, hentry]
        rfl

/-! ## Whole runs -/

/-- **The C interface is a table of states.** Whatever handles are opened, used and closed, in any
order, as long as callers use open handles and no handle takes `2 ^ 64 - 1` submissions: no call
reads or frees what is not there, each answers as the table of the open handles says, and when all
handles are closed nothing is allocated. -/
theorem handles_keep_states (calls : List Call)
    (hfresh : Runs.AllSteps step Fresh (some fun _ => none) calls)
    (hpermitted : Runs.AllSteps Table.step Table.Permitted (fun _ => none) calls) :
    Runs.emitted step emit (some fun _ => none) calls =
        Runs.emitted Table.step Table.emit (fun _ => none) calls ∧
      ∃ memory, Runs.run step (some fun _ => none) calls = some memory ∧
        (∀ a, memory a ≠ none → ∃ swbt handle,
          Runs.run Table.step (fun _ => none) calls swbt ≠ none ∧
          memory swbt = some (.handle handle) ∧ (a = swbt ∨ a = handle.app)) ∧
        ((∀ swbt, Runs.run Table.step (fun _ => none) calls swbt = none) →
          memory = fun _ => none) := by
  have hstep : ∀ s t call, (∃ memory, s = some memory ∧ Represents memory t) → Fresh s call →
      Table.Permitted t call →
      (∃ memory, step s call = some memory ∧ Represents memory (Table.step t call)) ∧
        emit s call = Table.emit t call := by
    rintro s t call ⟨memory, rfl, h⟩ hf hp
    obtain ⟨memory', hperform, hafter⟩ := h.perform hf hp
    refine ⟨⟨memory', ?_, hafter⟩, ?_⟩
    · simp only [step, Option.bind_some, hperform, Option.map_some]
    · simp only [emit, Table.emit, Option.bind_some, hperform, Option.map_some]
  obtain ⟨⟨memory, hrun, h⟩, hemitted⟩ :=
    Runs.emitted_related hstep ⟨_, rfl, Represents.empty⟩ hfresh hpermitted
  exact ⟨hemitted, memory, hrun, fun a ha => h.covered ha, h.memory_eq_empty⟩

/-- The button B, with the sticks at rest. -/
def pressedState : ControllerState := { neutralState with buttons := Button.b.mask }

theorem two_handles_keep_states :
    Runs.emitted step emit (some fun _ => none)
        [.openHandle true (some 16) (some 32), .openHandle true (some 48) (some 64),
          .submitState (some 16) (some pressedState), .submitNeutral (some 48),
          .getStatus (some 16) true, .getStatus (some 48) true, .close (some 16),
          .close (some 48)] =
      [some (.opened .ok (some (some 16))), some (.opened .ok (some (some 48))),
        some (.submitted .ok), some (.submitted .ok),
        some (.told .ok (some ⟨pressedState, false, false⟩)),
        some (.told .ok (some ⟨neutralState, false, false⟩)), some .closed, some .closed] := by
  have hfresh : Runs.AllSteps step Fresh (some fun _ => none)
      [.openHandle true (some 16) (some 32), .openHandle true (some 48) (some 64),
        .submitState (some 16) (some pressedState), .submitNeutral (some 48),
        .getStatus (some 16) true, .getStatus (some 48) true, .close (some 16),
        .close (some 48)] := by
    refine ⟨?_, ?_, trivial, trivial, trivial, trivial, trivial, trivial, trivial⟩
    · rintro m hm
      obtain rfl := Option.some.inj hm
      exact ⟨fun _ _ => rfl, fun _ h => ⟨rfl, by rw [← h]; decide⟩⟩
    · rintro m hm
      obtain rfl := Option.some.inj hm
      refine ⟨fun a ha => ?_, fun a ha => ⟨?_, by rw [← ha]; decide⟩⟩
      · obtain rfl := Option.some.inj ha
        rfl
      · obtain rfl := Option.some.inj ha
        rfl
  obtain ⟨hemitted, -⟩ := handles_keep_states _ hfresh (by
    refine ⟨trivial, trivial, ?_, ?_, ?_, ?_, ?_, ?_, trivial⟩
    · exact fun a ha => ⟨⟨neutralState, 0⟩, by rw [← Option.some.inj ha]; rfl, by decide⟩
    · exact fun a ha => ⟨⟨neutralState, 0⟩, by rw [← Option.some.inj ha]; rfl, by decide⟩
    · exact fun a ha => ⟨⟨pressedState, 1⟩, by rw [← Option.some.inj ha]; rfl⟩
    · exact fun a ha => ⟨⟨neutralState, 1⟩, by rw [← Option.some.inj ha]; rfl⟩
    · exact fun a ha => ⟨⟨pressedState, 1⟩, by rw [← Option.some.inj ha]; rfl⟩
    · exact fun a ha => ⟨⟨neutralState, 1⟩, by rw [← Option.some.inj ha]; rfl⟩)
  rw [hemitted]
  rfl

end CApi

end Swbt
