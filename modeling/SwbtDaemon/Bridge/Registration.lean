import SwbtDaemon.Bridge.ReportLoop

/-!
# The timer of the adapter in the timer list of the run loop

The timer list is a linked list through the timers themselves: adding a timer twice, or removing one
that is not in it, corrupts it. A `Registration` notes whether the timer of the adapter is in the
list and whether it has ever been misused; can-send events may come at any time.
-/

namespace Swbt

/-- What the run loop knows of the timer. -/
structure TimerList where
  registered : Bool
  /-- The timer has been added while it was registered, or removed while it was not. -/
  misused : Bool
deriving DecidableEq, Repr

/-- The timer list after a call of the adapter. -/
def TimerList.perform (timers : TimerList) : Action → TimerList
  | .addTimer => ⟨true, timers.misused || timers.registered⟩
  | .removeTimer => ⟨false, timers.misused || !timers.registered⟩
  | .setTimer _ => timers
  | .requestCanSendNow _ => timers
  | .send _ _ _ => timers
  | .reportTick _ _ => timers

/-- The adapter with the timer list. -/
structure Registration where
  adapter : TimerAdapter
  timers : TimerList

namespace Registration

open ReportLoop (Event handle)

/-- A fresh adapter is not in the list. -/
def ofAdapter (adapter : TimerAdapter) : Registration := ⟨adapter, ⟨false, false⟩⟩

/-- The calls of a handler, in order. -/
def after (timers : TimerList) (calls : TimerAdapter × List Action) : Registration :=
  ⟨calls.1, calls.2.foldl TimerList.perform timers⟩

/-- The state after an event. The run loop takes an expired timer out of the list just before it
calls the handler; a timer that is not in the list does not expire. -/
def step (state : Registration) (event : Event) : Registration :=
  match event with
  | .timer timeMs =>
    if state.timers.registered then
      after { state.timers with registered := false } (handle state.adapter (.timer timeMs))
    else state
  | event => after state.timers (handle state.adapter event)

/-- Opened and closed events alternate: the adapter is started only first, or after it has been
stopped. It may be stopped at any time. -/
def Alternates : Bool → List Event → Prop
  | _, [] => True
  | opened, event :: events =>
    match event with
    | .start _ _ => opened = false ∧ Alternates true events
    | .stop => Alternates false events
    | _ => Alternates opened events

end Registration

end Swbt
