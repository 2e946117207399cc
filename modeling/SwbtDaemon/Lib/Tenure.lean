import Mathlib.Data.List.Basic
import Mathlib.Order.Defs.PartialOrder

/-!
# Exclusive tenures with ordered updates

What an exclusive, sequenced ownership is for, in its own terms: at any time there is at most one
tenure, held by one owner; only the owner submits updates, and an update is accepted when its
sequence is not below any that the same tenure accepted before. A new tenure starts with nothing.

`ι` are the owners, `κ` the sequences and `α` the payloads.
-/

/-- A tenure: its owner and the updates it accepted, most recent first. The accepted sequences
never go down. -/
structure Tenure (ι κ α : Type*) [Preorder κ] where
  owner : ι
  accepted : List (κ × α)
  ordered : accepted.Pairwise fun newer older => older.1 ≤ newer.1

namespace Tenure

variable {ι κ α : Type*} [Preorder κ]

/-- The tenure of `who` before any update. -/
def start (who : ι) : Tenure ι κ α := ⟨who, [], List.Pairwise.nil⟩

/-- An update of `who` with sequence `seq` is accepted: it comes from the owner, and its sequence
is at least every sequence accepted so far. -/
def Accepts (t : Tenure ι κ α) (who : ι) (seq : κ) : Prop :=
  t.owner = who ∧ ∀ u ∈ t.accepted, u.1 ≤ seq

instance [DecidableEq ι] [DecidableLE κ] (t : Tenure ι κ α) (who : ι) (seq : κ) :
    Decidable (t.Accepts who seq) :=
  inferInstanceAs (Decidable (_ ∧ _))

/-- The tenure after an accepted update. -/
def push (t : Tenure ι κ α) (seq : κ) (payload : α) (h : ∀ u ∈ t.accepted, u.1 ≤ seq) :
    Tenure ι κ α :=
  ⟨t.owner, (seq, payload) :: t.accepted, List.pairwise_cons.2 ⟨h, t.ordered⟩⟩

/-- The payload of the last accepted update, `neutral` when there is none. -/
def payload (t : Tenure ι κ α) (neutral : α) : α :=
  (t.accepted.head?.map Prod.snd).getD neutral

/-- The sequence of the last accepted update, `zero` when there is none. -/
def sequence (t : Tenure ι κ α) (zero : κ) : κ :=
  (t.accepted.head?.map Prod.fst).getD zero

/-- What can happen to the ownership. -/
inductive Event (ι κ α : Type*) where
  /-- `who` asks for the ownership. -/
  | claim (who : ι)
  /-- `who` submits an update. -/
  | submit (who : ι) (seq : κ) (payload : α)
  /-- The tenure ends if it is that of `who`. -/
  | vacate (who : ι)
  /-- The tenure ends, whoever holds it. -/
  | vacateAll
  /-- Something that does not concern the ownership. -/
  | other

/-- The tenure after an event. -/
def step [DecidableEq ι] [DecidableLE κ] (t : Option (Tenure ι κ α)) (e : Event ι κ α) :
    Option (Tenure ι κ α) :=
  match e, t with
  | .claim who, none => some (start who)
  | .claim _, some t => some t
  | .submit _ _ _, none => none
  | .submit who seq payload, some t =>
    if h : t.Accepts who seq then some (t.push seq payload h.2) else some t
  | .vacate _, none => none
  | .vacate who, some t => if t.owner = who then none else some t
  | .vacateAll, _ => none
  | .other, t => t

/-- Storing the last sequence is enough: being at least all accepted sequences is being at least
the last one. -/
theorem accepts_iff_sequence_le (t : Tenure ι κ α) (who : ι) (seq zero : κ)
    (hzero : zero ≤ seq) : t.Accepts who seq ↔ t.owner = who ∧ t.sequence zero ≤ seq := by
  obtain ⟨owner, accepted, ordered⟩ := t
  refine and_congr_right fun _ => ?_
  cases accepted with
  | nil => simpa [sequence] using hzero
  | cons newest older =>
    have hle : ∀ u ∈ older, u.1 ≤ newest.1 := (List.pairwise_cons.1 ordered).1
    constructor
    · intro h
      exact h newest List.mem_cons_self
    · intro h u hu
      rcases List.mem_cons.1 hu with rfl | hu
      · exact h
      · exact le_trans (hle u hu) h

end Tenure
