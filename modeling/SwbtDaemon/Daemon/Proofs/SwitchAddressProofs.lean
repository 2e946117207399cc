import SwbtDaemon.Daemon.SwitchAddress
import SwbtDaemon.Lib.CString
import Mathlib.Data.Fintype.Basic
import Mathlib.Tactic.FinCases

/-!
# The two readers of an address text

`Spelled` says which bytes a text spells, character by character. Both readers accept the texts
that spell some bytes, one yields these bytes and the other their canonical text.
-/

namespace Swbt

namespace SwitchAddress

open Filling

/-! ## Digits -/

theorem hexDigitToUpper_eq (value : UInt8) :
    hexDigitToUpper value = (hexNibble value).map hexDigitUpper := by
  have hall : ∀ n : Fin 256, hexDigitToUpper (UInt8.ofNat n.val) =
      (hexNibble (UInt8.ofNat n.val)).map hexDigitUpper := by decide +kernel
  simpa using hall ⟨value.toNat, value.toNat_lt⟩

theorem hexNibble_hexDigitUpper {nibble : UInt8} (h : nibble < 16) :
    hexNibble (hexDigitUpper nibble) = some nibble := by
  have hall : ∀ n : Fin 16, hexNibble (hexDigitUpper (UInt8.ofNat n.val)) =
      some (UInt8.ofNat n.val) := by decide
  simpa using hall ⟨nibble.toNat, UInt8.lt_iff_toNat_lt.mp h⟩

/-- The value of a digit is below sixteen, and neither the terminator nor a colon is a digit. -/
theorem hexNibble_some {value nibble : UInt8} (h : hexNibble value = some nibble) :
    nibble < 16 ∧ value ≠ 0 ∧ value ≠ 0x3A := by
  have hall : ∀ n : Fin 256, ∀ nibble ∈ hexNibble (UInt8.ofNat n.val),
      nibble < 16 ∧ UInt8.ofNat n.val ≠ 0 ∧ UInt8.ofNat n.val ≠ 0x3A := by decide +kernel
  simpa using hall ⟨value.toNat, value.toNat_lt⟩ nibble (by simpa using h)

theorem high_join {high low : UInt8} (hhigh : high < 16) (hlow : low < 16) :
    ((high <<< 4) ||| low) >>> 4 = high ∧ ((high <<< 4) ||| low) &&& 0x0F = low := by
  have hall : ∀ m n : Fin 16,
      ((UInt8.ofNat m.val <<< 4) ||| UInt8.ofNat n.val) >>> 4 = UInt8.ofNat m.val ∧
        ((UInt8.ofNat m.val <<< 4) ||| UInt8.ofNat n.val) &&& 0x0F = UInt8.ofNat n.val := by
    decide +kernel
  simpa using hall ⟨high.toNat, UInt8.lt_iff_toNat_lt.mp hhigh⟩
    ⟨low.toNat, UInt8.lt_iff_toNat_lt.mp hlow⟩

theorem join_halves (byte : UInt8) : ((byte >>> 4) <<< 4) ||| (byte &&& 0x0F) = byte := by
  have hall : ∀ n : Fin 256, ((UInt8.ofNat n.val >>> 4) <<< 4) ||| (UInt8.ofNat n.val &&& 0x0F) =
      UInt8.ofNat n.val := by decide +kernel
  simpa using hall ⟨byte.toNat, byte.toNat_lt⟩

theorem halves_lt (byte : UInt8) : byte >>> 4 < 16 ∧ byte &&& 0x0F < 16 := by
  have hall : ∀ n : Fin 256, UInt8.ofNat n.val >>> 4 < 16 ∧ UInt8.ofNat n.val &&& 0x0F < 16 := by
    decide +kernel
  simpa using hall ⟨byte.toNat, byte.toNat_lt⟩

/-! ## What a text spells -/

/-- The text has the two digits of `byte` at its place, and a colon after them unless they are the
last. -/
structure SpelledAt (text : List UInt8) (index : Fin 6) (byte : UInt8) : Prop where
  high : hexNibble (charAt text (index.val * 3)) = some (byte >>> 4)
  low : hexNibble (charAt text (index.val * 3 + 1)) = some (byte &&& 0x0F)
  colon : index.val < 5 → charAt text (index.val * 3 + 2) = 0x3A

/-- The text spells the bytes and ends there. -/
structure Spelled (text : List UInt8) (address : Bytes) : Prop where
  at_index : ∀ index : Fin 6, SpelledAt text index (address.get index)
  terminated : charAt text 17 = 0

theorem parsedByte_eq_some_iff (text : List UInt8) (index : Fin 6) (byte : UInt8) :
    parsedByte text index = some byte ↔ SpelledAt text index byte := by
  unfold parsedByte
  dsimp only
  constructor
  · intro h
    split at h
    · next high low hhigh hlow =>
      split at h
      · cases h
      · next hcolon =>
        obtain rfl := Option.some.inj h
        obtain ⟨hup, hdown⟩ := high_join (hexNibble_some hhigh).1 (hexNibble_some hlow).1
        refine ⟨by rw [hhigh, hup], by rw [hlow, hdown], fun hindex => ?_⟩
        by_contra hne
        exact hcolon ⟨hindex, hne⟩
    · cases h
  · intro ⟨hhigh, hlow, hcolon⟩
    rw [hhigh, hlow]
    dsimp only
    rw [if_neg (fun h => h.2 (hcolon h.1)), join_halves]

/-- `swbt_daemon_switch_address_parse_bytes` accepts what spells bytes, and stores these. -/
theorem parseBytes_eq_iff (text : List UInt8) (address parsed : Bytes) :
    parseBytes text address = (true, parsed) ↔ Spelled text parsed := by
  have hfill := fill_finRange_iff (parsedByte text) address parsed
  simp only [parsedByte_eq_some_iff] at hfill
  unfold parseBytes
  generalize fill (parsedByte text) (List.finRange 6) address = filled at hfill
  obtain ⟨ok, stored⟩ := filled
  dsimp only
  constructor
  · intro h
    obtain ⟨hok, rfl⟩ := Prod.mk.inj h
    obtain ⟨rfl, hend⟩ : ok = true ∧ charAt text 17 = 0 := by simpa using hok
    exact ⟨hfill.mp rfl, hend⟩
  · intro ⟨hat, hend⟩
    obtain ⟨rfl, rfl⟩ := Prod.mk.inj (hfill.mpr hat)
    simp [hend]

/-- Every position before the end is one of the three of a byte. -/
theorem exists_place {index : Nat} (h : index < 17) :
    ∃ (place : Fin 6) (rest : Nat), rest < 3 ∧ index = place.val * 3 + rest :=
  ⟨⟨index / 3, by omega⟩, index % 3, by omega, by dsimp only; omega⟩

/-- Cutting an array at its terminator changes no character up to the terminator. -/
theorem charAt_ofArray (text : List UInt8) (index : Nat)
    (h : ∀ earlier < index, charAt text earlier ≠ 0) :
    charAt (CString.ofArray text) index = charAt text index := by
  unfold CString.ofArray charAt at *
  induction text generalizing index with
  | nil => rfl
  | cons c text ih =>
    by_cases hc : c = 0
    · subst hc
      cases index with
      | zero => rfl
      | succ index => exact absurd rfl (h 0 (Nat.succ_pos index))
    · rw [List.takeWhile_cons_of_pos (by simpa using hc)]
      cases index with
      | zero => rfl
      | succ index =>
        exact ih index fun earlier hlt => by simpa using h (earlier + 1) (Nat.succ_lt_succ hlt)

/-- No character of a spelled text before its end is the terminator. -/
theorem Spelled.charAt_ne_zero {text : List UInt8} {address : Bytes} (h : Spelled text address)
    {index : Nat} (hindex : index < 17) : charAt text index ≠ 0 := by
  obtain ⟨place, rest, hrest, rfl⟩ := exists_place hindex
  obtain ⟨hhigh, hlow, hcolon⟩ := h.at_index place
  obtain rfl | rfl | rfl : rest = 0 ∨ rest = 1 ∨ rest = 2 := by omega
  · exact (hexNibble_some hhigh).2.1
  · exact (hexNibble_some hlow).2.1
  · rw [hcolon (by omega)]
    decide

/-- A string made from a spelled array is spelled alike. -/
theorem Spelled.ofArray {text : List UInt8} {address : Bytes} (h : Spelled text address) :
    Spelled (CString.ofArray text) address := by
  have hchar : ∀ index, index ≤ 17 → charAt (CString.ofArray text) index = charAt text index :=
    fun index hindex => charAt_ofArray text index fun earlier hlt =>
      h.charAt_ne_zero (by omega)
  refine ⟨fun index => ?_, ?_⟩
  · obtain ⟨hhigh, hlow, hcolon⟩ := h.at_index index
    refine ⟨?_, ?_, fun hindex => ?_⟩
    · rw [hchar _ (by omega), hhigh]
    · rw [hchar _ (by omega), hlow]
    · rw [hchar _ (by omega), hcolon hindex]
  · rw [hchar 17 (by omega), h.terminated]

/-! ## The canonical text -/

theorem charAt_toList (text : Text) {place : Nat} (h : place < 18) :
    charAt text.toList place = text[place] := by
  simp [charAt, h]

/-- What `swbt_daemon_switch_address_format_bytes` leaves at each place of the buffer. -/
theorem charAt_formatBytes (address : Bytes) (text : Text) (index : Fin 6) :
    charAt (formatBytes address text).toList (index.val * 3) =
        hexDigitUpper (address.get index >>> 4) ∧
      charAt (formatBytes address text).toList (index.val * 3 + 1) =
        hexDigitUpper (address.get index &&& 0x0F) ∧
      (index.val < 5 → charAt (formatBytes address text).toList (index.val * 3 + 2) = 0x3A) ∧
      charAt (formatBytes address text).toList 17 = 0 := by
  have hrounds : List.finRange 6 = [0, 1, 2, 3, 4, 5] := by decide
  rw [charAt_toList _ (by omega), charAt_toList _ (by omega), charAt_toList _ (by omega),
    charAt_toList _ (by omega)]
  unfold formatBytes
  rw [hrounds]
  fin_cases index <;> simp [formatByte]

/-- The printed text spells the bytes it was printed from. -/
theorem spelled_formatBytes (address : Bytes) (text : Text) :
    Spelled (formatBytes address text).toList address := by
  refine ⟨fun index => ?_, (charAt_formatBytes address text 0).2.2.2⟩
  obtain ⟨hhigh, hlow, hcolon, -⟩ := charAt_formatBytes address text index
  refine ⟨?_, ?_, hcolon⟩
  · rw [hhigh, hexNibble_hexDigitUpper (halves_lt _).1]
  · rw [hlow, hexNibble_hexDigitUpper (halves_lt _).2]

/-! ## Normalising -/

/-- At the place of a digit, the loop stores the digit in upper case. -/
theorem normalizedChar_digit {text : List UInt8} (index : Fin 17) {nibble : UInt8}
    (hplace : (index.val + 1) % 3 ≠ 0) (h : hexNibble (charAt text index.val) = some nibble) :
    normalizedChar text index = some (hexDigitUpper nibble) := by
  unfold normalizedChar
  dsimp only
  rw [if_neg (hexNibble_some h).2.1, if_neg hplace, hexDigitToUpper_eq, h]
  rfl

/-- At the place of a colon, the loop stores the colon. -/
theorem normalizedChar_colon {text : List UInt8} {index : Fin 17}
    (hplace : (index.val + 1) % 3 = 0) (h : charAt text index.val = 0x3A) :
    normalizedChar text index = some 0x3A := by
  unfold normalizedChar
  dsimp only
  rw [h, if_neg (by decide), if_pos hplace, if_neg (by decide)]

/-- The characters of a text that spells bytes are those of the printed text, up to the case of
the digits. -/
theorem normalizedChar_of_spelled {text : List UInt8} {address : Bytes} (h : Spelled text address)
    (buffer : Text) (index : Fin 17) :
    normalizedChar text index = some (charAt (formatBytes address buffer).toList index) := by
  obtain ⟨place, rest, hrest, hindex⟩ := exists_place index.isLt
  obtain ⟨hhigh, hlow, hcolon⟩ := h.at_index place
  obtain ⟨hprinted, hprinted', hprinted'', -⟩ := charAt_formatBytes address buffer place
  rw [hindex]
  obtain rfl | rfl | rfl : rest = 0 ∨ rest = 1 ∨ rest = 2 := by omega
  · rw [Nat.add_zero] at hindex ⊢
    rw [normalizedChar_digit index (by omega) (by rw [hindex]; exact hhigh), hprinted]
  · rw [normalizedChar_digit index (by omega) (by rw [hindex]; exact hlow), hprinted']
  · have hplace : place.val < 5 := by omega
    rw [normalizedChar_colon (by omega) (by rw [hindex]; exact hcolon hplace), hprinted'' hplace]

/-- What the loop accepts: a colon after every two digits. -/
theorem accepted_char {text : List UInt8} {index : Fin 17}
    (h : (normalizedChar text index).isSome) :
    ((index.val + 1) % 3 = 0 → charAt text index.val = 0x3A) ∧
      ((index.val + 1) % 3 ≠ 0 → ∃ nibble, hexNibble (charAt text index.val) = some nibble) := by
  unfold normalizedChar at h
  dsimp only at h
  split at h
  · simp at h
  · split at h
    · next hplace =>
      split at h
      · simp at h
      · next hcolon => exact ⟨fun _ => not_not.mp hcolon, fun hne => absurd hplace hne⟩
    · next hplace =>
      rw [hexDigitToUpper_eq, Option.isSome_map] at h
      exact ⟨fun heq => absurd heq hplace, fun _ => Option.isSome_iff_exists.mp h⟩

/-- A text whose characters are all accepted spells some bytes. -/
theorem exists_spelled {text : List UInt8} (h : ∀ index, (normalizedChar text index).isSome)
    (hend : charAt text 17 = 0) : ∃ address, Spelled text address := by
  have hbyte : ∀ place : Fin 6, ∃ byte, SpelledAt text place byte := by
    intro place
    have hplace := place.isLt
    obtain ⟨high, hhigh⟩ :=
      (accepted_char (h ⟨place.val * 3, by omega⟩)).2 (by dsimp only; omega)
    obtain ⟨low, hlow⟩ :=
      (accepted_char (h ⟨place.val * 3 + 1, by omega⟩)).2 (by dsimp only; omega)
    obtain ⟨hup, hdown⟩ := high_join (hexNibble_some hhigh).1 (hexNibble_some hlow).1
    refine ⟨(high <<< 4) ||| low, by rw [hup, ← hhigh], by rw [hdown, ← hlow], fun hlt => ?_⟩
    exact (accepted_char (h ⟨place.val * 3 + 2, by omega⟩)).1 (by dsimp only; omega)
  choose byte hspelled using hbyte
  refine ⟨Vector.ofFn byte, fun place => ?_, hend⟩
  have hget : (Vector.ofFn byte).get place = byte place := Vector.getElem_ofFn place.isLt
  rw [hget]
  exact hspelled place

/-- A text that spells bytes is replaced by the printed text of these. -/
theorem normalize_of_spelled {text : List UInt8} {address : Bytes} (h : Spelled text address)
    (dest buffer : Text) : normalize dest text = (true, formatBytes address buffer) := by
  have hchars := normalizedChar_of_spelled h buffer
  have hend := (charAt_formatBytes address buffer 0).2.2.2
  generalize formatBytes address buffer = printed at hchars hend ⊢
  have hfill := (fill_finRange_iff (normalizedChar text) (Vector.replicate 17 0)
    (Vector.ofFn fun index : Fin 17 => charAt printed.toList index)).mpr fun index => by
      have hget : (Vector.ofFn fun index : Fin 17 => charAt printed.toList index).get index =
          charAt printed.toList index := Vector.getElem_ofFn index.isLt
      rw [hchars index, hget]
  unfold normalize
  generalize fill (normalizedChar text) (List.finRange 17) (Vector.replicate 17 0) = filled at hfill
  subst hfill
  dsimp only
  rw [if_neg (by decide), if_neg (not_not.mpr h.terminated)]
  refine congrArg (Prod.mk true) (Vector.ext fun index hindex => ?_)
  rw [Vector.getElem_push, ← charAt_toList printed hindex]
  split
  · rw [Vector.getElem_ofFn]
  · next hlast =>
    obtain rfl : index = 17 := by omega
    exact hend.symm

/-- A text that spells nothing is refused, and the destination stays. -/
theorem normalize_of_not_spelled {text : List UInt8} (h : ¬ ∃ address, Spelled text address)
    (dest : Text) : normalize dest text = (false, dest) := by
  have hdone := fill_fst_iff (normalizedChar text) (List.finRange 17) (Vector.replicate 17 0)
  unfold normalize
  generalize fill (normalizedChar text) (List.finRange 17) (Vector.replicate 17 0) = filled at hdone
  obtain ⟨ok, normalized⟩ := filled
  dsimp only at hdone ⊢
  cases ok with
  | false => rfl
  | true =>
    have hchars : ∀ index, (normalizedChar text index).isSome :=
      fun index => hdone.mp rfl index (List.mem_finRange index)
    rw [if_neg (by decide), if_pos (fun hend => h (exists_spelled hchars hend))]

theorem normalize_fst_iff (dest : Text) (text : List UInt8) :
    (normalize dest text).1 = true ↔ ∃ address, Spelled text address := by
  constructor
  · intro h
    by_contra hnone
    rw [normalize_of_not_spelled hnone] at h
    cases h
  · intro ⟨address, h⟩
    rw [normalize_of_spelled h dest dest]

theorem parseBytes_fst_iff (text : List UInt8) (address : Bytes) :
    (parseBytes text address).1 = true ↔ ∃ parsed, Spelled text parsed := by
  constructor
  · intro h
    exact ⟨_, (parseBytes_eq_iff text address _).mp (Prod.ext h rfl)⟩
  · intro ⟨parsed, h⟩
    rw [(parseBytes_eq_iff text address parsed).mpr h]

end SwitchAddress

end Swbt
