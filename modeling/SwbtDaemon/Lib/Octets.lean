import SwbtDaemon.Lib.Numerals
import SwbtDaemon.Lib.Written

/-!
# Decimal octets

Decimal numerals as they are printed and as they are read, those of one byte, leading zeros allowed,
and lists of texts that a byte separates.
-/

namespace CString

open Json (digitByte decimal)

/-! ## Decimal numerals -/

theorem digitOf_ten (c : UInt8) :
    digitOf 10 c = if 0x30 ≤ c && c ≤ 0x39 then some (c.toNat - 0x30) else none := by
  unfold digitOf digitValue
  split
  · next h =>
    simp only [Bool.and_eq_true, decide_eq_true_eq, UInt8.le_iff_toNat_le] at h
    have hle : c.toNat ≤ 0x39 := h.2
    exact Option.filter_some_pos (by simp; omega)
  · split
    · exact Option.filter_some_neg (by simp)
    · split
      · exact Option.filter_some_neg (by simp)
      · rfl

theorem digitOf_digitByte (d : Fin 10) : digitOf 10 (digitByte d) = some d.val := by
  revert d
  decide

theorem digits_digitBytes (ds : List (Fin 10)) : Digits 10 (ds.map digitByte) := by
  intro c hc
  obtain ⟨d, -, rfl⟩ := List.mem_map.mp hc
  rw [digitOf_digitByte, Option.isSome_some]

theorem numberOnto_digitBytes (acc : Nat) (ds : List (Fin 10)) :
    numberOnto 10 acc (ds.map digitByte) = ds.foldl (fun acc d => acc * 10 + d.val) acc := by
  unfold numberOnto
  rw [List.foldl_map]
  simp only [digitOf_digitByte, Option.getD_some]

theorem numberOnto_cons {base : Nat} {c : UInt8} {d : Nat} (hc : digitOf base c = some d)
    (acc : Nat) (ds : List UInt8) :
    numberOnto base acc (c :: ds) = numberOnto base (acc * base + d) ds := by
  rw [numberOnto, List.foldl_cons, hc]
  rfl

/-- More digits never make a number smaller. -/
theorem le_numberOnto {base : Nat} (hbase : 0 < base) (acc : Nat) (ds : List UInt8) :
    acc ≤ numberOnto base acc ds := by
  induction ds generalizing acc with
  | nil => exact Nat.le_refl acc
  | cons c ds ih =>
    have hstep : acc ≤ acc * base + (digitOf base c).getD 0 :=
      Nat.le_trans (Nat.le_mul_of_pos_right acc hbase) (Nat.le_add_right _ _)
    exact Nat.le_trans hstep (ih _)

/-! ## Numerals of one byte -/

/-- A non-empty string of decimal digits with the value `n`, which is from 1 to 255. -/
structure Octet (text : List UInt8) (n : UInt8) : Prop where
  digits : Digits 10 text
  ne_nil : text ≠ []
  value : number 10 text = n.toNat
  ne_zero : n ≠ 0

/-- A byte other than zero is printed as an octet. -/
theorem octet_printUnsigned {n : UInt8} (h : n ≠ 0) : Octet (printUnsigned n.toNat) n := by
  obtain ⟨d, ds, hbytes, hvalue⟩ := Written.printUnsigned_digits n.toNat
  rw [hbytes]
  refine ⟨digits_digitBytes (d :: ds), by simp, ?_, h⟩
  rw [number, numberOnto_digitBytes]
  exact hvalue

/-! ## Separated texts -/

/-- A non-empty list of texts that stand for `xs` by `P`, with `sep` between them. -/
inductive Separated {α : Type*} (sep : UInt8) (P : List UInt8 → α → Prop) :
    List UInt8 → List α → Prop
  | one {text : List UInt8} {x : α} (h : P text x) : Separated sep P text [x]
  | more {text rest : List UInt8} {x : α} {xs : List α} (h : P text x)
      (hrest : Separated sep P rest xs) : Separated sep P (text ++ sep :: rest) (x :: xs)

namespace Separated

variable {α : Type*} {sep : UInt8} {P : List UInt8 → α → Prop} {text : List UInt8} {xs : List α}

theorem ne_nil (h : Separated sep P text xs) : xs ≠ [] := by
  cases h <;> simp

theorem text_ne_nil (h : Separated sep P text xs) (hP : ∀ text x, P text x → text ≠ []) :
    text ≠ [] := by
  cases h with
  | one h => exact hP _ _ h
  | more => simp

/-- What holds of the separator and of every character of the texts holds of every character. -/
theorem forall_mem {Q : UInt8 → Prop} (h : Separated sep P text xs) (hsep : Q sep)
    (hP : ∀ text x, P text x → ∀ c ∈ text, Q c) : ∀ c ∈ text, Q c := by
  induction h with
  | one h => exact hP _ _ h
  | more h _ ih =>
    intro c hc
    rcases List.mem_append.mp hc with hfirst | hrest
    · exact hP _ _ h c hfirst
    · rcases List.mem_cons.mp hrest with rfl | hrest
      · exact hsep
      · exact ih c hrest

end Separated

end CString
