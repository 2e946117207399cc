import Mathlib.Data.Option.Basic
import Mathlib.Logic.Function.Basic

/-!
# Owners and what they own

A memory in which every allocated block is an owner, or the one block that an owner points to. The
rules here say that this stays so when a pair is allocated, written or freed.
-/

namespace Pairs

/-! ## Two tables side by side -/

/-- Tables that agree at every key still do when a key changes in both. -/
theorem rel_update {κ ε δ : Type*} [DecidableEq κ] {r : ε → δ → Prop} {s : κ → Option ε}
    {t : κ → Option δ} (h : ∀ k, Option.Rel r (s k) (t k)) (key : κ) {e : Option ε} {d : Option δ}
    (hnew : Option.Rel r e d) (k : κ) :
    Option.Rel r (Function.update s key e k) (Function.update t key d k) := by
  by_cases hk : k = key
  · rw [hk, Function.update_self, Function.update_self]
    exact hnew
  · rw [Function.update_of_ne hk, Function.update_of_ne hk]
    exact h k

theorem rel_some {ε δ : Type*} {r : ε → δ → Prop} {e : ε} {o : Option δ}
    (h : Option.Rel r (some e) o) : ∃ d, o = some d ∧ r e d := by
  cases h with
  | some h => exact ⟨_, rfl, h⟩

/-! ## Pairs of blocks -/

section Paired

variable {α β γ : Type*} {own : β → α} {res : γ → α} {target : β → Nat}

variable (own res target) in
/-- The blocks are the owners in `pairs`, at their keys, and what each of them points to. -/
structure Paired (heap : Nat → Option α) (pairs : Nat → Option (β × γ)) : Prop where
  owner : ∀ a x y, pairs a = some (x, y) → heap a = some (own x)
  resource : ∀ a x y, pairs a = some (x, y) → heap (target x) = some (res y)
  apart : ∀ a b p q, pairs a = some p → pairs b = some q → target p.1 = target q.1 → a = b
  covered : ∀ c, heap c ≠ none → ∃ a p, pairs a = some p ∧ (c = a ∨ c = target p.1)

variable {heap : Nat → Option α} {pairs : Nat → Option (β × γ)}

theorem Paired.empty : Paired own res target (fun _ => none) (fun _ => none) where
  owner _ _ _ h := absurd h.symm (Option.some_ne_none _)
  resource _ _ _ h := absurd h.symm (Option.some_ne_none _)
  apart _ _ _ _ h := absurd h.symm (Option.some_ne_none _)
  covered _ h := absurd rfl h

/-- Without owners nothing is allocated. -/
theorem Paired.heap_eq_empty (h : Paired own res target heap pairs) (hnone : ∀ a, pairs a = none) :
    heap = fun _ => none := by
  funext c
  by_contra hc
  obtain ⟨a, p, hp, -⟩ := h.covered c hc
  exact Option.some_ne_none p (hp.symm.trans (hnone a))

theorem update_update_of_ne {a b c : Nat} (u v : Option α) (ha : c ≠ a) (hb : c ≠ b) :
    Function.update (Function.update heap b v) a u c = heap c := by
  rw [Function.update_of_ne ha, Function.update_of_ne hb]

theorem Paired.target_ne (h : Paired own res target heap pairs) (hkinds : ∀ x y, own x ≠ res y)
    {a b : Nat} {p q : β × γ} (hp : pairs a = some p) (hq : pairs b = some q) :
    target q.1 ≠ a := by
  intro heq
  have hres := h.resource b q.1 q.2 hq
  rw [heq, h.owner a p.1 p.2 hp] at hres
  exact hkinds p.1 q.2 (Option.some.inj hres)

/-- The blocks of two pairs are four. -/
theorem Paired.separate (h : Paired own res target heap pairs) (hkinds : ∀ x y, own x ≠ res y)
    {a c : Nat} {p q : β × γ} (hp : pairs a = some p) (hq : pairs c = some q) (hc : c ≠ a) :
    c ≠ target p.1 ∧ target q.1 ≠ a ∧ target q.1 ≠ target p.1 :=
  ⟨fun heq => h.target_ne hkinds hq hp heq.symm, h.target_ne hkinds hp hq,
    fun heq => hc (h.apart c a q p hq hp heq)⟩

/-- A pair is freed: both its blocks. -/
theorem Paired.free (h : Paired own res target heap pairs) (hkinds : ∀ x y, own x ≠ res y) {a : Nat}
    {p : β × γ} (hp : pairs a = some p) :
    Paired own res target (Function.update (Function.update heap (target p.1) none) a none)
      (Function.update pairs a none) := by
  have hold : ∀ c q, Function.update pairs a none c = some q → c ≠ a ∧ pairs c = some q := by
    intro c q hq
    by_cases hc : c = a
    · rw [hc, Function.update_self] at hq
      cases hq
    · rw [Function.update_of_ne hc] at hq
      exact ⟨hc, hq⟩
  refine ⟨fun c x y hq => ?_, fun c x y hq => ?_, fun b c q r hq hr heq => ?_, fun c hc => ?_⟩
  · obtain ⟨hc, hq⟩ := hold c _ hq
    obtain ⟨hblock, -, -⟩ := h.separate hkinds hp hq hc
    rw [update_update_of_ne _ _ hc hblock]
    exact h.owner c x y hq
  · obtain ⟨hc, hq⟩ := hold c _ hq
    obtain ⟨-, hta, htb⟩ := h.separate hkinds hp hq hc
    rw [update_update_of_ne _ _ hta htb]
    exact h.resource c x y hq
  · exact h.apart b c q r (hold b q hq).2 (hold c r hr).2 heq
  · have hca : c ≠ a := by
      rintro rfl
      exact hc (Function.update_self ..)
    rw [Function.update_of_ne hca] at hc
    have hcb : c ≠ target p.1 := by
      rintro rfl
      exact hc (Function.update_self ..)
    rw [Function.update_of_ne hcb] at hc
    obtain ⟨b, q, hq, hor⟩ := h.covered c hc
    have hb : b ≠ a := by
      rintro rfl
      obtain rfl := Option.some.inj (hp.symm.trans hq)
      exact hor.elim hca hcb
    exact ⟨b, q, by rw [Function.update_of_ne hb, hq], hor⟩

/-- A pair is put where there was none: at two addresses that are not in use. -/
theorem Paired.alloc (h : Paired own res target heap pairs) {a : Nat} {x : β} (y : γ)
    (hne : target x ≠ a) (ha : heap a = none) (hb : heap (target x) = none) :
    Paired own res target
      (Function.update (Function.update heap (target x) (some (res y))) a (some (own x)))
      (Function.update pairs a (some (x, y))) := by
  -- the others are not at these addresses
  have hothers : ∀ c q, pairs c = some q →
      c ≠ a ∧ c ≠ target x ∧ target q.1 ≠ a ∧ target q.1 ≠ target x := by
    intro c q hq
    have howner := h.owner c q.1 q.2 hq
    have hresource := h.resource c q.1 q.2 hq
    have hused : ∀ d e, heap d = some e → d ≠ a ∧ d ≠ target x := by
      intro d e hd
      refine ⟨?_, ?_⟩
      · rintro rfl
        exact Option.some_ne_none e (hd.symm.trans ha)
      · rintro rfl
        exact Option.some_ne_none e (hd.symm.trans hb)
    obtain ⟨hca, hcb⟩ := hused c _ howner
    exact ⟨hca, hcb, hused _ _ hresource⟩
  have hcases : ∀ c q, Function.update pairs a (some (x, y)) c = some q →
      (c = a ∧ q = (x, y)) ∨ pairs c = some q := by
    intro c q hq
    by_cases hc : c = a
    · rw [hc, Function.update_self] at hq
      exact .inl ⟨hc, (Option.some.inj hq).symm⟩
    · rw [Function.update_of_ne hc] at hq
      exact .inr hq
  refine ⟨fun c x' y' hq => ?_, fun c x' y' hq => ?_, fun b c q r hq hr heq => ?_, fun c hc => ?_⟩
  · rcases hcases c _ hq with ⟨rfl, hxy⟩ | hq
    · obtain ⟨rfl, rfl⟩ := Prod.mk.inj hxy
      exact Function.update_self ..
    · obtain ⟨hca, hcb, -⟩ := hothers c _ hq
      rw [update_update_of_ne _ _ hca hcb]
      exact h.owner c x' y' hq
  · rcases hcases c _ hq with ⟨rfl, hxy⟩ | hq
    · obtain ⟨rfl, rfl⟩ := Prod.mk.inj hxy
      rw [Function.update_of_ne hne, Function.update_self]
    · obtain ⟨-, -, hta, htb⟩ := hothers c _ hq
      rw [update_update_of_ne _ _ hta htb]
      exact h.resource c x' y' hq
  · rcases hcases b q hq with ⟨hb, rfl⟩ | hq
    · rcases hcases c r hr with ⟨hc, rfl⟩ | hr
      · exact hb.trans hc.symm
      · exact absurd heq.symm (hothers c r hr).2.2.2
    · rcases hcases c r hr with ⟨-, rfl⟩ | hr
      · exact absurd heq (hothers b q hq).2.2.2
      · exact h.apart b c q r hq hr heq
  · by_cases hca : c = a
    · exact ⟨a, (x, y), Function.update_self .., .inl hca⟩
    by_cases hcb : c = target x
    · exact ⟨a, (x, y), Function.update_self .., .inr hcb⟩
    rw [update_update_of_ne _ _ hca hcb] at hc
    obtain ⟨b, q, hq, hor⟩ := h.covered c hc
    exact ⟨b, q, by rw [Function.update_of_ne (hothers b q hq).1, hq], hor⟩

/-- A pair is written where it is. -/
theorem Paired.write (h : Paired own res target heap pairs) (hkinds : ∀ x y, own x ≠ res y) {a : Nat}
    {p : β × γ} (hp : pairs a = some p) {x : β} (y : γ) (htarget : target x = target p.1) :
    Paired own res target
      (Function.update (Function.update heap (target p.1) (some (res y))) a (some (own x)))
      (Function.update pairs a (some (x, y))) := by
  -- to free it and allocate it again at the same addresses comes to the same
  have hfreed := h.free hkinds hp
  have hne : target x ≠ a := by
    rw [htarget]
    exact h.target_ne hkinds hp hp
  have halloc := hfreed.alloc (x := x) y hne (Function.update_self ..) (by
    rw [Function.update_of_ne hne, htarget, Function.update_self])
  rw [Function.update_idem] at halloc
  have hheap : Function.update (Function.update (Function.update
      (Function.update heap (target p.1) none) a none) (target x) (some (res y))) a (some (own x)) =
      Function.update (Function.update heap (target p.1) (some (res y))) a (some (own x)) := by
    rw [Function.update_comm hne.symm, Function.update_idem, htarget, Function.update_idem]
  rw [hheap] at halloc
  exact halloc

end Paired

end Pairs
