import SwbtDaemon.Switch.Report

/-!
# The queue of subcommand replies

`btstack_bridge/subcommand_reply_queue.c`: a ring buffer of four `0x21` reports.
-/

namespace Swbt

/-- `SWBT_BTSTACK_SUBCOMMAND_REPLY_QUEUE_CAPACITY`. -/
def replyQueueCapacity : Nat := 4

/-- `swbt_btstack_subcommand_reply_queue_item_t`: the first `report_size` bytes are `report`. -/
structure ReplyItem where
  hidCid : UInt16
  report : List UInt8
deriving DecidableEq, Repr

/-- The item that `clear_item` leaves. -/
def ReplyItem.cleared : ReplyItem := ⟨0, []⟩

/-- `swbt_btstack_subcommand_reply_queue_t`. -/
structure ReplyQueue where
  items : Vector ReplyItem replyQueueCapacity
  head : Fin replyQueueCapacity
  count : Nat
  count_le : count ≤ replyQueueCapacity
deriving DecidableEq

namespace ReplyQueue

/-- `swbt_btstack_subcommand_reply_queue_result_t`. -/
inductive Result where
  | ok
  | empty
  | full
  | invalidReportSize
  | sendFailed
deriving DecidableEq, Repr

/-- `swbt_btstack_subcommand_reply_queue_init`. -/
def init : ReplyQueue :=
  ⟨Vector.replicate replyQueueCapacity ReplyItem.cleared, ⟨0, by decide⟩, 0, Nat.zero_le _⟩

/-- `swbt_btstack_subcommand_reply_queue_size`. -/
def size (queue : ReplyQueue) : Nat := queue.count

/-- `enqueue_index`. -/
def enqueueIndex (queue : ReplyQueue) : Fin replyQueueCapacity :=
  ⟨(queue.head.val + queue.count) % replyQueueCapacity, Nat.mod_lt _ (by decide)⟩

/-- `swbt_btstack_subcommand_reply_queue_enqueue`. -/
def enqueue (queue : ReplyQueue) (hidCid : UInt16) (report : List UInt8) : Result × ReplyQueue :=
  if report.length = 0 ∨ report.length > subcommandReplyReportSize then
    (.invalidReportSize, queue)
  else if h : queue.count ≥ replyQueueCapacity then (.full, queue)
  else
    (.ok, { queue with
      items := queue.items.set queue.enqueueIndex ⟨hidCid, report⟩
      count := queue.count + 1
      count_le := by omega })

/-- The item at the head. -/
def headItem (queue : ReplyQueue) : ReplyItem := queue.items[queue.head]

/-- `swbt_btstack_subcommand_reply_queue_send_next`, where `sent` is the result of the send
callback on the head item. -/
def sendNext (queue : ReplyQueue) (sent : Bool) : Result × ReplyQueue :=
  if queue.count = 0 then (.empty, queue)
  else if !sent then (.sendFailed, queue)
  else
    (.ok, { items := queue.items.set queue.head ReplyItem.cleared
            head := ⟨(queue.head.val + 1) % replyQueueCapacity, Nat.mod_lt _ (by decide)⟩
            count := queue.count - 1
            count_le := Nat.le_trans (Nat.sub_le _ _) queue.count_le })

end ReplyQueue

end Swbt
