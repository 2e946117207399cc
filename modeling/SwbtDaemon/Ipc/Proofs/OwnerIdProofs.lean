import SwbtDaemon.Ipc.Proofs.ReadBackProofs

/-!
# The form of an owner id

`swbt_ipc_parse_owner_id` takes more texts than `swbt_ipc_format_owner_id` writes: whatever eight
characters `strtoul` reads to the end.
-/

namespace Swbt.Ipc

open CString

/-- Eight characters that are a numeral of base sixteen as `strtoul` takes it: white space, a sign,
the mark `0x` and digits of either case. A minus sign stands before zero, unless `unsigned long` has
32 bits. -/
def NumeralText [Platform] (s : List UInt8) : Prop :=
  s.length = ownerIdHexSize ∧ ∃ sign ds, HexNumeral s sign ds ∧
    (sign = .minus → Platform.ulong = .bits32 ∨ number 16 ds = 0)

/-- All characters are digits, the letters in lower case. -/
def LowerHex (s : List UInt8) : Prop :=
  ∀ c ∈ s, (0x30 ≤ c ∧ c ≤ 0x39) ∨ (0x61 ≤ c ∧ c ≤ 0x66)

/-- The digits of eight characters are below 32 bits. -/
theorem number_lt_of_numeral {s ds : List UInt8} {sign : Sign} (hlength : s.length = ownerIdHexSize)
    (h : HexNumeral s sign ds) : number 16 ds < 2 ^ 32 := by
  obtain ⟨hds, -, space, mark, -, -, rfl⟩ := h
  have hle : ds.length ≤ 8 := by
    rw [← show ownerIdHexSize = 8 from rfl, ← hlength]
    simp only [List.length_append]
    omega
  exact Nat.lt_of_lt_of_le (number_lt hds) (Nat.pow_le_pow_right (by decide) hle)

theorem parseOwnerId_of_numeral [Platform] {s ds : List UInt8} {sign : Sign}
    (hlength : s.length = ownerIdHexSize) (h : HexNumeral s sign ds) :
    (parseOwnerId s).isSome = true ↔
      (sign = .minus → Platform.ulong = .bits32 ∨ number 16 ds = 0) := by
  have hlt := number_lt_of_numeral hlength h
  have hwidth : ¬ number 16 ds ≥ 2 ^ Platform.ulong.bits := by
    cases Platform.ulong with
    | bits32 => exact Nat.not_le.mpr hlt
    | bits64 => exact Nat.not_le.mpr (Nat.lt_trans hlt (by decide))
  have hstrtoul := strtoul16_numeral Platform.ulong.bits h
  rw [Sign.convert, if_neg hwidth] at hstrtoul
  by_cases hminus : sign = .minus
  · rw [if_pos hminus] at hstrtoul
    rw [parseOwnerId_of_strtoul hlength hstrtoul]
    cases Platform.ulong with
    | bits32 =>
      have hmod : (2 ^ ULongWidth.bits32.bits - number 16 ds) % 2 ^ ULongWidth.bits32.bits < 2 ^ 32 :=
        Nat.mod_lt _ (by decide)
      rw [if_pos hmod]
      simp
    | bits64 =>
      have hiff : (2 ^ ULongWidth.bits64.bits - number 16 ds) % 2 ^ ULongWidth.bits64.bits < 2 ^ 32 ↔
          number 16 ds = 0 := by
        show (2 ^ 64 - number 16 ds) % 2 ^ 64 < 2 ^ 32 ↔ number 16 ds = 0
        omega
      by_cases hzero : number 16 ds = 0
      · rw [if_pos (hiff.mpr hzero)]
        simp [hzero]
      · rw [if_neg (mt hiff.mp hzero)]
        simp [hminus, hzero]
  · rw [if_neg hminus] at hstrtoul
    rw [parseOwnerId_of_strtoul hlength hstrtoul, if_pos hlt]
    simp [hminus]

/-- The texts that are taken. -/
theorem parseOwnerId_isSome_iff [Platform] (s : List UInt8) :
    (parseOwnerId s).isSome = true ↔ NumeralText s := by
  constructor
  · intro h
    have hlength : s.length = ownerIdHexSize := by
      by_contra hne
      rw [parseOwnerId, if_pos hne] at h
      cases h
    have hnumeral : ∃ sign ds, HexNumeral s sign ds := by
      rw [parseOwnerId, if_neg (fun hne => hne hlength)] at h
      split at h
      · cases h
      · next r hr =>
        split at h
        · cases h
        · next haccepted =>
          exact exists_hexNumeral hr (by_contra fun hrest => haccepted (.inr (.inl hrest)))
    obtain ⟨sign, ds, hnumeral⟩ := hnumeral
    exact ⟨hlength, sign, ds, hnumeral, (parseOwnerId_of_numeral hlength hnumeral).mp h⟩
  · rintro ⟨hlength, sign, ds, hnumeral, hminus⟩
    exact (parseOwnerId_of_numeral hlength hnumeral).mpr hminus

/-- Lower-case digits are printed ones. -/
theorem exists_hexBytes {s : List UInt8} (h : LowerHex s) : ∃ ds, s = hexBytes ds := by
  induction s with
  | nil => exact ⟨[], rfl⟩
  | cons c cs ih =>
    obtain ⟨hc, hcs⟩ := List.forall_mem_cons.mp h
    obtain ⟨ds, rfl⟩ := ih hcs
    have hd : ∃ d : Fin 16, hexDigit d.val = c := by
      simp only [UInt8.le_iff_toNat_le] at hc
      rcases hc with ⟨hlow, hhigh⟩ | ⟨hlow, hhigh⟩
      · replace hlow : 0x30 ≤ c.toNat := hlow
        replace hhigh : c.toNat ≤ 0x39 := hhigh
        refine ⟨⟨c.toNat - 0x30, by omega⟩, UInt8.toNat.inj ?_⟩
        show (if c.toNat - 0x30 < 10 then _ else _ : UInt8).toNat = _
        rw [if_pos (by omega)]
        simp only [Nat.toUInt8, UInt8.toNat_ofNat']
        omega
      · replace hlow : 0x61 ≤ c.toNat := hlow
        replace hhigh : c.toNat ≤ 0x66 := hhigh
        refine ⟨⟨c.toNat - 0x61 + 10, by omega⟩, UInt8.toNat.inj ?_⟩
        show (if c.toNat - 0x61 + 10 < 10 then _ else _ : UInt8).toNat = _
        rw [if_neg (by omega)]
        simp only [Nat.toUInt8, UInt8.toNat_ofNat']
        omega
    obtain ⟨d, rfl⟩ := hd
    exact ⟨d :: ds, rfl⟩

/-- A text of lower-case digits is the one that is written for its number. -/
theorem eq_formatOwnerId_of_lowerHex [Platform] {s : List UInt8} (h : LowerHex s)
    {clientId : UInt32} (hparse : parseOwnerId s = some clientId) : s = formatOwnerId clientId := by
  obtain ⟨hlength, -⟩ := (parseOwnerId_isSome_iff s).mp (by rw [hparse, Option.isSome_some])
  obtain ⟨ds, rfl⟩ := exists_hexBytes h
  rw [hexBytes, List.length_map] at hlength
  rw [parseOwnerId_hexBytes hlength] at hparse
  have hlt : hexadecimal ds < 2 ^ 32 := by
    have hbound := hexadecimal_lt ds
    rwa [hlength] at hbound
  have hvalue : hexadecimal (ownerDigits clientId) = hexadecimal ds := by
    rw [hexadecimal_ownerDigits, ← Option.some.inj hparse]
    simp only [Nat.toUInt32, UInt32.toNat_ofNat']
    omega
  have hdigits := hexadecimal_injective (by rw [hlength]; simp [ownerDigits]) hvalue
  rw [formatOwnerId_digits, hdigits]

theorem lowerHex_formatOwnerId (clientId : UInt32) : LowerHex (formatOwnerId clientId) := by
  rw [formatOwnerId_digits]
  intro c hc
  obtain ⟨d, hd, rfl⟩ := List.mem_map.mp hc
  clear hd hc
  revert d
  decide

/-- **When owner ids have one form.** A text is taken for an owner id exactly when it is the one
that is written for it, unless it is another numeral of eight characters: one with white space, a
sign, the mark `0x` or an upper-case digit. -/
theorem parseOwnerId_canonical_iff [Platform] (s : List UInt8) :
    (∀ clientId, parseOwnerId s = some clientId ↔ s = formatOwnerId clientId) ↔
      (NumeralText s → LowerHex s) := by
  constructor
  · intro h hnumeral
    obtain ⟨clientId, hparse⟩ := Option.isSome_iff_exists.mp ((parseOwnerId_isSome_iff s).mpr hnumeral)
    rw [(h clientId).mp hparse]
    exact lowerHex_formatOwnerId clientId
  · intro h clientId
    constructor
    · intro hparse
      have hnumeral := (parseOwnerId_isSome_iff s).mp (by rw [hparse, Option.isSome_some])
      exact eq_formatOwnerId_of_lowerHex (h hnumeral) hparse
    · rintro rfl
      exact parseOwnerId_formatOwnerId clientId

/-- An upper-case owner id is taken, and none is written so. -/
theorem upperCase_ownerId_taken :
    ¬ (@parseOwnerId .lp64 (bytes "000003E9") = some 1001 ↔
      bytes "000003E9" = formatOwnerId 1001) := by decide

end Swbt.Ipc
