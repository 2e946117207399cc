import SwbtDaemon.Bridge.ReplyQueue
import SwbtDaemon.Lib.Ring

/-!
# Proofs: the reply queue is a bounded list
-/

namespace Swbt.ReplyQueue

variable {queue : ReplyQueue}

/-- The queued replies, first one first. -/
def toList (queue : ReplyQueue) : List ReplyItem :=
  Ring.window queue.items queue.head queue.count

theorem toList_init : init.toList = [] := rfl

/-- What an accepted report looks like. -/
def ValidSize (report : List UInt8) : Prop :=
  ¬ (report.length = 0 ∨ report.length > subcommandReplyReportSize)

/-- An enqueue appends the reply, or reports why it did not and changes nothing. -/
theorem enqueue_cases (queue : ReplyQueue) (hidCid : UInt16) (report : List UInt8) :
    (ValidSize report ∧ queue.size < replyQueueCapacity ∧
        (queue.enqueue hidCid report).1 = .ok ∧
        (queue.enqueue hidCid report).2.toList = queue.toList ++ [⟨hidCid, report⟩]) ∨
      ((queue.enqueue hidCid report).1 ≠ .ok ∧ (queue.enqueue hidCid report).2 = queue) := by
  unfold enqueue
  split
  · exact Or.inr ⟨by simp, rfl⟩
  · rename_i hvalid
    split
    · exact Or.inr ⟨by simp, rfl⟩
    · rename_i hroom
      have hlt : queue.count < replyQueueCapacity := by omega
      exact Or.inl ⟨hvalid, hlt, rfl, Ring.window_push hlt _⟩

/-- The head item is the first queued reply. -/
theorem toList_eq_cons (h : 0 < queue.size) :
    queue.toList = queue.headItem :: queue.toList.tail := by
  have hcount : queue.count = queue.count - 1 + 1 := by
    simp only [size] at h
    omega
  unfold toList
  rw [hcount, Ring.window_succ]
  rfl

theorem sendNext_of_failed (h : 0 < queue.size) :
    queue.sendNext false = (.sendFailed, queue) := by
  have hne : queue.count ≠ 0 := Nat.pos_iff_ne_zero.1 h
  simp [sendNext, hne]

theorem sendNext_of_sent (h : 0 < queue.size) :
    (queue.sendNext true).1 = .ok ∧ (queue.sendNext true).2.toList = queue.toList.tail := by
  have hne : queue.count ≠ 0 := Nat.pos_iff_ne_zero.1 h
  have hle := queue.count_le
  have hpop := Ring.window_pop queue.items queue.head (show queue.count - 1 < _ by omega)
    ReplyItem.cleared
  rw [Nat.sub_add_cancel (by omega)] at hpop
  unfold sendNext
  rw [if_neg hne, if_neg (by simp)]
  exact ⟨rfl, hpop⟩

end Swbt.ReplyQueue
