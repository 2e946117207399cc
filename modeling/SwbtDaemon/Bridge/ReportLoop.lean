import SwbtDaemon.Bridge.TimerAdapter
import SwbtDaemon.Lib.Runs

/-!
# The timer adapter in its run loop

BTstack delivers a registered timer once, and one can-send event after one or more requests. A
`ReportLoop` is the adapter together with what is outstanding there; its times are in milliseconds
since an arbitrary start and the adapter only sees their low 32 bits.
-/

namespace Swbt

/-- The adapter, and what the run loop still owes it. -/
structure ReportLoop where
  adapter : TimerAdapter
  /-- The timer of the adapter is registered. -/
  registered : Bool
  /-- A can-send event has been requested and not been delivered. -/
  requested : Bool

namespace ReportLoop

/-- A call of the adapter by its owner or by the run loop, with what the adapter then reads from
outside. -/
inductive Event where
  | start (hidCid : UInt16) (timeMs : Nat)
  | timer (timeMs : Nat)
  | canSendNow (timeMs : Nat) (state : State) (accepted : Bool)
  | enqueueSubcommandReply (hidCid : UInt16) (report : List UInt8)
  | sendNeutralNow (accepted : Bool)
  | stop

/-- The reading of the run loop's clock: `get_time_ms` has 32 bits. -/
def clockMs (timeMs : Nat) : UInt32 := UInt32.ofNat timeMs

/-- A fresh adapter: nothing is registered or requested. -/
def ofAdapter (adapter : TimerAdapter) : ReportLoop := ⟨adapter, false, false⟩

/-- The adapter after an event, and its calls. -/
def handle (adapter : TimerAdapter) : Event → TimerAdapter × List Action
  | .start hidCid timeMs =>
    (adapter.start hidCid (TimerAdapter.readingUs (clockMs timeMs))).calls
  | .timer timeMs => (adapter.onTimer (clockMs timeMs)).calls
  | .canSendNow timeMs state accepted =>
    (adapter.onCanSendNow (clockMs timeMs) state accepted).calls
  | .enqueueSubcommandReply hidCid report => (adapter.enqueueSubcommandReply hidCid report).calls
  | .sendNeutralNow accepted => (adapter.sendNeutralNow accepted).calls
  | .stop => adapter.stop

/-- The run loop after a call of the adapter. -/
def perform (loop : ReportLoop) : Action → ReportLoop
  | .addTimer => { loop with registered := true }
  | .removeTimer => { loop with registered := false }
  | .requestCanSendNow _ => { loop with requested := true }
  | .setTimer _ => loop
  | .send _ _ _ => loop
  | .reportTick _ _ => loop

/-- The run loop takes the event out of what is outstanding, or has no such event to deliver. -/
def deliver (loop : ReportLoop) : Event → Option ReportLoop
  | .timer _ => if loop.registered then some { loop with registered := false } else none
  | .canSendNow _ _ _ => if loop.requested then some { loop with requested := false } else none
  | _ => some loop

/-- The loop after a handler with its calls. -/
def after (loop : ReportLoop) (calls : TimerAdapter × List Action) : ReportLoop :=
  calls.2.foldl perform { loop with adapter := calls.1 }

/-- The loop after an event. -/
def step (loop : ReportLoop) (event : Event) : ReportLoop :=
  match loop.deliver event with
  | none => loop
  | some delivered => delivered.after (handle loop.adapter event)

/-- While the adapter runs, the run loop will call it again. -/
def WakeUp (loop : ReportLoop) : Prop :=
  loop.adapter.running = true → loop.registered = true ∨ loop.requested = true

/-- The condition on an event under which a wake-up stays outstanding: a can-send event, when no
neutral report is pending, may fail to send a reply only while the timer is registered, and has to
find the periodic report due and to send it. -/
def Rearms (loop : ReportLoop) : Event → Prop
  | .canSendNow timeMs _ accepted =>
    let nowUs := TimerAdapter.readingUs (clockMs timeMs)
    loop.requested = true → loop.adapter.running = true →
      loop.adapter.neutralSendPending = false →
        (0 < loop.adapter.replyQueue.size → accepted = true ∨ loop.registered = true) ∧
        (loop.adapter.replyQueue.size = 0 → loop.adapter.canSendPending = true →
          loop.adapter.periodicHoldoffUntilUs ≤ nowUs →
            accepted = true ∧ loop.adapter.scheduler.nextDeadlineUs ≤ nowUs)
  | _ => True

end ReportLoop

end Swbt
