import SwbtDaemon.Bridge.Messages
import SwbtDaemon.Lib.Clocks

/-!
# The timer adapter and the clock

The readings of the run loop's clock that the handlers take, the sends that the hold-off after a
reply is about, and the timer with the time it was set for.
-/

namespace Swbt

/-- The clock reading that a handler takes, in milliseconds. -/
def ReportLoop.Event.reading : ReportLoop.Event → Option Nat
  | .start _ timeMs => some (ReportLoop.clockMs timeMs).toNat
  | .timer timeMs => some (ReportLoop.clockMs timeMs).toNat
  | .canSendNow timeMs _ _ => some (ReportLoop.clockMs timeMs).toNat
  | _ => none

/-- The clock readings of a run never go back; so the 32-bit clock does not wrap during it. -/
def ReportLoop.Nondecreasing (events : List ReportLoop.Event) : Prop :=
  (events.filterMap ReportLoop.Event.reading).Pairwise (· ≤ ·)

namespace TimerAdapter

open ReportLoop (Event handle clockMs)

/-- The event is a start of the adapter. -/
def IsStart : Event → Prop
  | .start _ _ => True
  | _ => False

/-- The event is a can-send event that goes to the branch of the pending neutral report. -/
def FlushesNeutral (adapter : TimerAdapter) : Event → Prop
  | .canSendNow _ _ _ => adapter.running = true ∧ adapter.neutralSendPending = true
  | _ => False

/-- The HID sender accepts a message of the event. -/
def Accepts (adapter : TimerAdapter) (event : Event) : Prop :=
  ∃ attempt ∈ adapter.attempts event, attempt.accepted = true

/-- The event sends a periodic report: it is a can-send event that gives a message to the HID
sender from neither of the other branches. -/
def SendsPeriodic (adapter : TimerAdapter) (event : Event) : Prop :=
  match event with
  | .canSendNow _ _ _ => ¬ adapter.FlushesNeutral event ∧ adapter.flushesReply event = false ∧
      adapter.attempts event ≠ []
  | _ => False

/-- The result of the scheduler tick that a can-send event invokes, if it gets to it. -/
def tickResult (adapter : TimerAdapter) : Event → Option Scheduler.Result
  | .canSendNow timeMs state accepted =>
    if adapter.running && !adapter.neutralSendPending && adapter.replyQueue.size == 0 &&
        adapter.canSendPending && adapter.periodicHoldoffUntilUs ≤ readingUs (clockMs timeMs) then
      some (adapter.scheduler.tick (readingUs (clockMs timeMs)) state accepted).1
    else none
  | _ => none

end TimerAdapter

/-! ## The timer with its time -/

/-- The timer of the adapter in the run loop. -/
structure TimerSlot where
  registered : Bool
  /-- The clock reading from which its delay was computed, in milliseconds. -/
  armedMs : Nat
  delayMs : Nat
deriving DecidableEq, Repr

/-- The timer after a call of the adapter in a handler with the reading `nowMs`. -/
def TimerSlot.perform (nowMs : Nat) (slot : TimerSlot) : Action → TimerSlot
  | .setTimer timeoutMs => { slot with armedMs := nowMs, delayMs := timeoutMs.toNat }
  | .addTimer => { slot with registered := true }
  | .removeTimer => { slot with registered := false }
  | _ => slot

/-- The adapter with its timer. -/
structure Timed where
  adapter : TimerAdapter
  slot : TimerSlot

namespace Timed

open ReportLoop (Event handle)

/-- A fresh adapter has set no timer. -/
def ofAdapter (adapter : TimerAdapter) : Timed := ⟨adapter, ⟨false, 0, 0⟩⟩

/-- The calls of a handler, in order. -/
def after (slot : TimerSlot) (nowMs : Nat) (calls : TimerAdapter × List Action) : Timed :=
  ⟨calls.1, calls.2.foldl (TimerSlot.perform nowMs) slot⟩

/-- The state after an event. The run loop takes an expired timer out of the list before it calls
the handler; a timer that is not in the list does not expire. -/
def step (state : Timed) (event : Event) : Timed :=
  let nowMs := event.reading.getD 0
  match event with
  | .timer timeMs =>
    if state.slot.registered then
      after { state.slot with registered := false } nowMs (handle state.adapter (.timer timeMs))
    else state
  | event => after state.slot nowMs (handle state.adapter event)

/-- A timer that was set for a delay expires no earlier than this delay after the reading from
which it was computed. -/
def Punctual (state : Timed) (event : Event) : Prop :=
  match event with
  | .timer timeMs => state.slot.registered = true →
      state.slot.armedMs + state.slot.delayMs ≤ (ReportLoop.clockMs timeMs).toNat
  | _ => True

end Timed

end Swbt
