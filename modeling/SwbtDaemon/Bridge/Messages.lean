import SwbtDaemon.Bridge.ReportLoop
import SwbtDaemon.Lib.Traces

/-!
# The messages of the timer adapter

What the adapter gives to the HID sender over a run, and where it comes from: the periodic and the
neutral reports, and the replies of the queue. The queue is a bounded list, first in, first out.
-/

namespace Swbt

/-- A message given to the HID sender, and whether it was accepted. -/
structure Attempt where
  hidCid : UInt16
  message : List UInt8
  accepted : Bool
deriving DecidableEq, Repr

/-- The messages given to the HID sender among the calls of a handler. -/
def Action.attempts (actions : List Action) : List Attempt :=
  actions.filterMap fun
    | .send hidCid message accepted => some ⟨hidCid, message, accepted⟩
    | _ => none

/-! ## The queue as a bounded list -/

namespace ReplyFifo

/-- A report that the queue takes: it is not empty and fits in a slot. -/
def validSize (report : List UInt8) : Bool :=
  0 < report.length && report.length ≤ subcommandReplyReportSize

/-- Appends a reply while there is room. -/
def enqueue (replies : List ReplyItem) (hidCid : UInt16) (report : List UInt8) :
    ReplyQueue.Result × List ReplyItem :=
  if !validSize report then (.invalidReportSize, replies)
  else if replies.length < replyQueueCapacity then (.ok, replies ++ [⟨hidCid, report⟩])
  else (.full, replies)

/-- Drops the first reply when it is sent. -/
def sendNext (replies : List ReplyItem) (sent : Bool) : ReplyQueue.Result × List ReplyItem :=
  match replies with
  | [] => (.empty, [])
  | item :: rest => if sent then (.ok, rest) else (.sendFailed, item :: rest)

end ReplyFifo

namespace ReplyQueue

/-- A call of the queue; a send comes with the answer of its callback. -/
inductive Call where
  | init
  | enqueue (hidCid : UInt16) (report : List UInt8)
  | sendNext (sent : Bool)
deriving DecidableEq, Repr

/-- The queue after a call. -/
def after (queue : ReplyQueue) : Call → ReplyQueue
  | .init => init
  | .enqueue hidCid report => (queue.enqueue hidCid report).2
  | .sendNext sent => (queue.sendNext sent).2

/-- The result of a call, and the reply that it gives to the callback. -/
def answer (queue : ReplyQueue) : Call → Result × Option ReplyItem
  | .init => (.ok, none)
  | .enqueue hidCid report => ((queue.enqueue hidCid report).1, none)
  | .sendNext sent =>
    ((queue.sendNext sent).1, if queue.count = 0 then none else some queue.headItem)

end ReplyQueue

namespace ReplyFifo

/-- The list after a call. -/
def after (replies : List ReplyItem) : ReplyQueue.Call → List ReplyItem
  | .init => []
  | .enqueue hidCid report => (enqueue replies hidCid report).2
  | .sendNext sent => (sendNext replies sent).2

/-- The result of a call, and the reply that it gives to the callback. -/
def answer (replies : List ReplyItem) : ReplyQueue.Call → ReplyQueue.Result × Option ReplyItem
  | .init => (.ok, none)
  | .enqueue hidCid report => ((enqueue replies hidCid report).1, none)
  | .sendNext sent => ((sendNext replies sent).1, replies.head?)

end ReplyFifo

/-! ## The adapter over a run -/

namespace TimerAdapter

open ReportLoop (Event handle)

/-- The adapter after an event. -/
def after (adapter : TimerAdapter) (event : Event) : TimerAdapter := (handle adapter event).1

/-- The messages that an event gives to the HID sender. -/
def attempts (adapter : TimerAdapter) (event : Event) : List Attempt :=
  Action.attempts (handle adapter event).2

/-- The event is a can-send event that goes to the branch of the queued replies. -/
def flushesReply (adapter : TimerAdapter) : Event → Bool
  | .canSendNow _ _ _ =>
    adapter.running && !adapter.neutralSendPending && decide (adapter.replyQueue.size > 0)
  | _ => false

/-- The messages that the HID sender accepts from the queue of replies. -/
def sentReplies (adapter : TimerAdapter) (event : Event) : List Attempt :=
  if adapter.flushesReply event then (adapter.attempts event).filter (·.accepted) else []

/-- The messages that the HID sender accepts from elsewhere. -/
def sentReports (adapter : TimerAdapter) (event : Event) : List Attempt :=
  if adapter.flushesReply event then [] else (adapter.attempts event).filter (·.accepted)

/-- The replies that are successfully enqueued. -/
def enqueuedReplies (adapter : TimerAdapter) : Event → List ReplyItem
  | .enqueueSubcommandReply hidCid report =>
    if (adapter.enqueueSubcommandReply hidCid report).result = .ok then [⟨hidCid, report⟩] else []
  | _ => []

/-- A message that carries a reply to its own channel: only the timer byte may differ. -/
structure Carries (item : ReplyItem) (attempt : Attempt) : Prop where
  hidCid : attempt.hidCid = item.hidCid
  size : attempt.message.length = item.report.length + 1
  header : attempt.message[0]? = some hidpInputReportHeader
  bytes : ∀ k, k ≠ 1 → attempt.message[k + 1]? = item.report[k]?

/-- After these events no start is open: each one is followed by a stop. -/
def Stopped (events : List Event) : Prop :=
  ∀ earlier hidCid timeMs later, events = earlier ++ .start hidCid timeMs :: later →
    Event.stop ∈ later

/-- A report that has a timer byte of a `0x21` reply. -/
def IsReply (report : List UInt8) : Prop :=
  ∃ timer rest, report = inputReportSubcommandReply :: timer :: rest

/-- An enqueued report is a `0x21` reply. -/
def EnqueuesReply : Event → Prop
  | .enqueueSubcommandReply _ report => IsReply report
  | _ => True

end TimerAdapter

end Swbt
