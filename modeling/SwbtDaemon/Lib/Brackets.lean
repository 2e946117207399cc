import Mathlib.Data.List.Nodup

/-!
# Resources that are started and stopped

A log of calls starts and stops resources; a start may fail. `Alternates` says that the successful
starts and the stops of one resource take turns; `Nested` says that the resources are stopped in the
reverse of the order in which they were started.
-/

namespace Brackets

variable {ρ : Type*}

/-- A call on a resource. -/
inductive Call (ρ : Type*) where
  | start (resource : ρ) (succeeded : Bool)
  | stop (resource : ρ)
deriving DecidableEq, Repr

/-- The resource of a call. -/
def Call.resource : Call ρ → ρ
  | .start resource _ => resource
  | .stop resource => resource

/-- The successful starts and the stops of `r` take turns; the two truth values say whether `r` is
held before and after the calls. -/
inductive Alternates (r : ρ) : Bool → List (Call ρ) → Bool → Prop where
  | nil (held : Bool) : Alternates r held [] held
  | other {held held' : Bool} {c : Call ρ} {calls : List (Call ρ)} (hc : c.resource ≠ r)
      (h : Alternates r held calls held') : Alternates r held (c :: calls) held'
  | failed {held held' : Bool} {calls : List (Call ρ)} (h : Alternates r held calls held') :
      Alternates r held (.start r false :: calls) held'
  | start {held' : Bool} {calls : List (Call ρ)} (h : Alternates r true calls held') :
      Alternates r false (.start r true :: calls) held'
  | stop {held' : Bool} {calls : List (Call ρ)} (h : Alternates r false calls held') :
      Alternates r true (.stop r :: calls) held'

/-- A resource is started when it is not held, and only the one that was started last is stopped;
the two lists hold the resources that are held before and after the calls, latest first. -/
inductive Nested : List ρ → List (Call ρ) → List ρ → Prop where
  | nil (held : List ρ) : Nested held [] held
  | failed {held held' : List ρ} {r : ρ} {calls : List (Call ρ)} (h : Nested held calls held') :
      Nested held (.start r false :: calls) held'
  | start {held held' : List ρ} {r : ρ} {calls : List (Call ρ)} (hr : r ∉ held)
      (h : Nested (r :: held) calls held') : Nested held (.start r true :: calls) held'
  | stop {held held' : List ρ} {r : ρ} {calls : List (Call ρ)} (h : Nested held calls held') :
      Nested (r :: held) (.stop r :: calls) held'

theorem Alternates.append {r : ρ} {a b c : Bool} {xs ys : List (Call ρ)} (h : Alternates r a xs b)
    (h' : Alternates r b ys c) : Alternates r a (xs ++ ys) c := by
  induction h with
  | nil held => exact h'
  | other hc _ ih => exact .other hc (ih h')
  | failed _ ih => exact .failed (ih h')
  | start _ ih => exact .start (ih h')
  | stop _ ih => exact .stop (ih h')

theorem Nested.append {a b c : List ρ} {xs ys : List (Call ρ)} (h : Nested a xs b)
    (h' : Nested b ys c) : Nested a (xs ++ ys) c := by
  induction h with
  | nil held => exact h'
  | failed _ ih => exact .failed (ih h')
  | start hr _ ih => exact .start hr (ih h')
  | stop _ ih => exact .stop (ih h')

/-- Calls on other resources. -/
theorem alternates_of_forall {r : ρ} {calls : List (Call ρ)} (h : ∀ c ∈ calls, c.resource ≠ r)
    (held : Bool) : Alternates r held calls held := by
  induction calls with
  | nil => exact .nil held
  | cons c calls ih =>
    exact .other (h c List.mem_cons_self) (ih fun d hd => h d (List.mem_cons_of_mem c hd))

/-- **Nested calls alternate**: what is stopped in the reverse order is started and stopped in
turns. -/
theorem Nested.alternates [DecidableEq ρ] {held held' : List ρ} {calls : List (Call ρ)}
    (h : Nested held calls held') (hnodup : held.Nodup) (r : ρ) :
    Alternates r (decide (r ∈ held)) calls (decide (r ∈ held')) := by
  induction h with
  | nil held => exact .nil _
  | @failed held held' r' calls _ ih =>
    by_cases hr : r' = r
    · subst hr
      exact .failed (ih hnodup)
    · exact .other hr (ih hnodup)
  | @start held held' r' calls hnot _ ih =>
    have hrest := ih (List.nodup_cons.2 ⟨hnot, hnodup⟩)
    by_cases hr : r' = r
    · subst hr
      rw [decide_eq_false hnot]
      rw [decide_eq_true List.mem_cons_self] at hrest
      exact .start hrest
    · have hmem : r ∈ r' :: held ↔ r ∈ held := by simp [Ne.symm hr]
      rw [decide_eq_decide.2 hmem] at hrest
      exact .other hr hrest
  | @stop held held' r' calls _ ih =>
    obtain ⟨hnot, hnodup⟩ := List.nodup_cons.1 hnodup
    have hrest := ih hnodup
    by_cases hr : r' = r
    · subst hr
      rw [decide_eq_true List.mem_cons_self]
      rw [decide_eq_false hnot] at hrest
      exact .stop hrest
    · have hmem : r ∈ r' :: held ↔ r ∈ held := by simp [Ne.symm hr]
      rw [decide_eq_decide.2 hmem]
      exact .other hr hrest

/-- The calls on other resources do not matter. -/
theorem alternates_of_filter {r : ρ} {p : ρ → Bool} (hp : p r = true) {a b : Bool}
    {calls : List (Call ρ)} (h : Alternates r a (calls.filter fun c => p c.resource) b) :
    Alternates r a calls b := by
  induction calls generalizing a with
  | nil => exact h
  | cons c calls ih =>
    by_cases hc : p c.resource = true
    · rw [List.filter_cons, if_pos hc] at h
      cases h with
      | other hne h => exact .other hne (ih h)
      | failed h => exact .failed (ih h)
      | start h => exact .start (ih h)
      | stop h => exact .stop (ih h)
    · rw [List.filter_cons, if_neg hc] at h
      refine .other (fun heq => hc ?_) (ih h)
      rw [heq]
      exact hp

end Brackets
