import SwbtDaemon.Ipc.Proofs.FidelityProofs
import SwbtDaemon.Ipc.Proofs.ResponseProofs
import SwbtDaemon.Lib.Bits
import SwbtDaemon.Lib.Hex

/-!
# What the daemon writes, it reads back

Owner ids, nested objects and controller states as they are printed, through the readers of
`ipc/ipc_json.c`.
-/

namespace Swbt.Ipc

open CString Json Written

/-! ## The owner id -/

/-- The digits of an owner id. -/
def ownerDigits (clientId : UInt32) : List (Fin 16) :=
  (List.range ownerIdHexSize).map fun index =>
    ⟨(clientId.toNat >>> ((ownerIdHexSize - 1 - index) * 4)) &&& 0x0F,
      Nat.lt_of_le_of_lt Nat.and_le_right (by decide)⟩

theorem formatOwnerId_digits (clientId : UInt32) :
    formatOwnerId clientId = hexBytes (ownerDigits clientId) := by
  rw [formatOwnerId, hexBytes, ownerDigits, List.map_map]
  rfl

/-- Shifting in the next digit. -/
theorem digit_step (n m : Nat) : n / (m * 16) * 16 + n / m % 16 = n / m := by
  rw [← Nat.div_div_eq_div_mul, Nat.mul_comm, Nat.div_add_mod]

theorem hexadecimal_ownerDigits (clientId : UInt32) :
    hexadecimal (ownerDigits clientId) = clientId.toNat := by
  have hlt := clientId.toNat_lt
  have hrange : List.range ownerIdHexSize = [0, 1, 2, 3, 4, 5, 6, 7] := by decide
  unfold hexadecimal ownerDigits
  rw [hrange]
  simp only [List.map_cons, List.map_nil, List.foldl_cons, List.foldl_nil, Bits.and_0x0F,
    Nat.shiftRight_eq_div_pow, ownerIdHexSize, Nat.reduceSub, Nat.reduceMul, Nat.reducePow]
  have hfirst : 0 * 16 + clientId.toNat / 268435456 % 16 = clientId.toNat / 268435456 := by omega
  rw [hfirst, digit_step _ 16777216, digit_step _ 1048576, digit_step _ 65536, digit_step _ 4096,
    digit_step _ 256, digit_step _ 16, digit_step _ 1, Nat.div_one]

/-- An owner id is a number of eight characters and of 32 bits. -/
theorem parseOwnerId_of_strtoul [Platform] {s : List UInt8} (hlength : s.length = ownerIdHexSize)
    {value : Nat} (h : strtoul16 Platform.ulong.bits s = some ⟨value, false, []⟩) :
    parseOwnerId s = if value < 2 ^ 32 then some value.toUInt32 else none := by
  rw [parseOwnerId, if_neg (fun hne => hne hlength), h]
  dsimp only
  by_cases hlt : value < 2 ^ 32
  · rw [if_pos hlt, if_neg]
    rintro (hrange | hrest | hlarge)
    · cases hrange
    · exact hrest rfl
    · omega
  · rw [if_neg hlt, if_pos]
    exact .inr (.inr (by omega))

/-- Eight printed digits are read as an owner id. -/
theorem parseOwnerId_hexBytes [Platform] {ds : List (Fin 16)} (hlength : ds.length = ownerIdHexSize) :
    parseOwnerId (hexBytes ds) = some (hexadecimal ds).toUInt32 := by
  have hlt : hexadecimal ds < 2 ^ 32 := by
    have h := hexadecimal_lt ds
    rwa [hlength] at h
  have hwidth : hexadecimal ds < 2 ^ Platform.ulong.bits := by
    cases Platform.ulong with
    | bits32 => exact hlt
    | bits64 => exact Nat.lt_trans hlt (by decide)
  have hne : ds ≠ [] := by
    rintro rfl
    cases hlength
  have hbytes : (hexBytes ds).length = ownerIdHexSize := by rw [hexBytes, List.length_map, hlength]
  rw [parseOwnerId_of_strtoul hbytes (strtoul16_hexBytes hne hwidth), if_pos hlt]

/-- The daemon reads back the owner ids that it writes. -/
theorem parseOwnerId_formatOwnerId [Platform] (clientId : UInt32) :
    parseOwnerId (formatOwnerId clientId) = some clientId := by
  have hlength : (ownerDigits clientId).length = ownerIdHexSize := by simp [ownerDigits]
  rw [formatOwnerId_digits, parseOwnerId_hexBytes hlength, hexadecimal_ownerDigits, Nat.toUInt32,
    UInt32.ofNat_toNat]

/-! ## Nested objects -/

/-- The lookup of a printed object finds its text. -/
theorem findKeyValue_nested {first : Member} {rest : List Member} {key : List UInt8}
    (hfirst : first.Legal) (h : ∀ m ∈ rest, m.Legal) (cs : List UInt8) {inner : Member}
    {innerRest : List Member}
    (hfind : Written.find? key (first :: rest) = some (.object (bodyBytes inner innerRest))) :
    ∃ after, findKeyValue (0x7B :: (bodyBytes first rest ++ 0x7D :: cs)) key =
      some (0x7B :: (bodyBytes inner innerRest ++ 0x7D :: after)) := by
  have hfound := findKeyValue_written key hfirst h cs
  rw [hfind] at hfound
  obtain ⟨after, hfound, -⟩ := hfound
  refine ⟨after, hfound.trans (congrArg some ?_)⟩
  simp [Written.Value.bytes]

/-! ## The controller state -/

/-- The numbers of the printed state. -/
theorem carries_printed (state : State) (after : List UInt8) :
    Carries (0x7B :: (bodyBytes (bareField "buttons" (printUnsigned state.buttons.toNat))
      (stateRest state) ++ 0x7D :: after)) state := by
  have hfirst : (bareField "buttons" (printUnsigned state.buttons.toNat)).Legal :=
    legal_bareField (by decide) (legal_printUnsigned _)
  have hstick : ∀ (key : List UInt8) (value : UInt16),
      Written.find? key (bareField "buttons" (printUnsigned state.buttons.toNat) ::
        stateRest state) = some (.bare (printUnsigned value.toNat)) →
      getI64 (0x7B :: (bodyBytes (bareField "buttons" (printUnsigned state.buttons.toNat))
        (stateRest state) ++ 0x7D :: after)) key = .value value.toNat := by
    intro key value hfind
    have hlt := value.toNat_lt
    rw [getI64_written hfirst (stateRest_legal state) after hfind, if_pos (by omega)]
  have hsigned : ∀ (key : List UInt8) (value : Int16),
      Written.find? key (bareField "buttons" (printUnsigned state.buttons.toNat) ::
        stateRest state) = some (.bare (printSigned value.toInt)) →
      getI64 (0x7B :: (bodyBytes (bareField "buttons" (printUnsigned state.buttons.toNat))
        (stateRest state) ++ 0x7D :: after)) key = .value value.toInt := by
    intro key value hfind
    have hlow := value.le_toInt
    have hhigh := value.toInt_lt
    rw [getI64_written_signed hfirst (stateRest_legal state) after hfind, if_pos (by omega)]
  constructor
  · have hlt := state.buttons.toNat_lt
    rw [getI64_written hfirst (stateRest_legal state) after rfl, if_pos (by omega)]
  · exact hstick _ state.lx rfl
  · exact hstick _ state.ly rfl
  · exact hstick _ state.rx rfl
  · exact hstick _ state.ry rfl
  · exact hsigned _ state.accelX rfl
  · exact hsigned _ state.accelY rfl
  · exact hsigned _ state.accelZ rfl
  · exact hsigned _ state.gyroX rfl
  · exact hsigned _ state.gyroY rfl
  · exact hsigned _ state.gyroZ rfl

end Swbt.Ipc
