import Mathlib.Data.Nat.Bitwise

/-!
# Bytes of machine words

The values of masked, shifted and joined words, so that packing and unpacking become arithmetic on
natural numbers.
-/

namespace Bits

theorem and_0x0F (n : Nat) : n &&& 15 = n % 16 := Nat.and_two_pow_sub_one_eq_mod n 4

theorem and_0xFF (n : Nat) : n &&& 255 = n % 256 := Nat.and_two_pow_sub_one_eq_mod n 8

/-- Joining two parts that share no bit adds them. -/
theorem or_shiftLeft {k low : Nat} (hlow : low < 2 ^ k) (high : Nat) :
    low ||| high <<< k = low + high * 2 ^ k := by
  rw [Nat.or_comm, ← Nat.shiftLeft_add_eq_or_of_lt hlow, Nat.shiftLeft_eq, Nat.add_comm]

theorem shiftLeft_mod {high k w : Nat} (h : high * 2 ^ k < 2 ^ w) :
    high <<< k % 2 ^ w = high <<< k := by
  rw [Nat.shiftLeft_eq, Nat.mod_eq_of_lt h]

/-! ## Taking a byte out of a word -/

theorem toNat_low16 (v : UInt16) : (v &&& 0xFF).toUInt8.toNat = v.toNat % 256 := by
  simp only [UInt16.toNat_toUInt8, UInt16.toNat_and, UInt16.reduceToNat, and_0xFF]
  omega

theorem toNat_byte16 (v : UInt16) {k : UInt16} (hk : k.toNat < 16) :
    ((v >>> k) &&& (0xFF : UInt16)).toUInt8.toNat = v.toNat / 2 ^ k.toNat % 256 := by
  simp only [UInt16.toNat_toUInt8, UInt16.toNat_and, UInt16.toNat_shiftRight, UInt16.reduceToNat,
    and_0xFF, Nat.mod_eq_of_lt hk, Nat.shiftRight_eq_div_pow]
  omega

theorem toNat_low32 (v : UInt32) : (v &&& 0xFF).toUInt8.toNat = v.toNat % 256 := by
  simp only [UInt32.toNat_toUInt8, UInt32.toNat_and, UInt32.reduceToNat, and_0xFF]
  omega

theorem toNat_byte32 (v : UInt32) {k : UInt32} (hk : k.toNat < 32) :
    ((v >>> k) &&& (0xFF : UInt32)).toUInt8.toNat = v.toNat / 2 ^ k.toNat % 256 := by
  simp only [UInt32.toNat_toUInt8, UInt32.toNat_and, UInt32.toNat_shiftRight, UInt32.reduceToNat,
    and_0xFF, Nat.mod_eq_of_lt hk, Nat.shiftRight_eq_div_pow]
  omega

/-- Bits 8 to 11 of one word below the low half byte of another. -/
theorem toNat_nibbles16 (x y : UInt16) :
    (((x >>> 8) &&& (0x0F : UInt16)) ||| ((y &&& (0x0F : UInt16)) <<< 4)).toUInt8.toNat =
      x.toNat / 256 % 16 + y.toNat % 16 * 16 := by
  have hhigh : (y.toNat % 16) <<< 4 % 2 ^ 16 = (y.toNat % 16) <<< 4 := shiftLeft_mod (by omega)
  simp only [UInt16.toNat_toUInt8, UInt16.toNat_or, UInt16.toNat_and, UInt16.toNat_shiftRight,
    UInt16.toNat_shiftLeft, UInt16.reduceToNat, Nat.reduceMod, and_0x0F]
  rw [hhigh, or_shiftLeft (k := 4) (by omega), Nat.shiftRight_eq_div_pow]
  omega

/-! ## Joining bytes to a word -/

theorem toNat_join16 (low high : UInt8) :
    (low.toUInt16 ||| (high.toUInt16 <<< 8)).toNat = low.toNat + high.toNat * 256 := by
  have hlow := low.toNat_lt
  have hhigh := high.toNat_lt
  simp only [UInt16.toNat_or, UInt16.toNat_shiftLeft, UInt8.toNat_toUInt16, UInt16.reduceToNat,
    Nat.reduceMod]
  rw [shiftLeft_mod (by omega), or_shiftLeft hlow]
  omega

theorem toNat_join32 (low middle high : UInt8) :
    (low.toUInt32 ||| (middle.toUInt32 <<< 8) ||| (high.toUInt32 <<< 16)).toNat =
      low.toNat + middle.toNat * 256 + high.toNat * 65536 := by
  have hlow := low.toNat_lt
  have hmiddle := middle.toNat_lt
  have hhigh := high.toNat_lt
  simp only [UInt32.toNat_or, UInt32.toNat_shiftLeft, UInt8.toNat_toUInt32, UInt32.reduceToNat,
    Nat.reduceMod]
  rw [shiftLeft_mod (by omega), or_shiftLeft hlow, shiftLeft_mod (by omega),
    or_shiftLeft (by omega)]
  omega

theorem toNat_join32_four (b0 b1 b2 b3 : UInt8) :
    (b0.toUInt32 ||| (b1.toUInt32 <<< 8) ||| (b2.toUInt32 <<< 16) |||
        (b3.toUInt32 <<< 24)).toNat =
      b0.toNat + b1.toNat * 256 + b2.toNat * 65536 + b3.toNat * 16777216 := by
  have h0 := b0.toNat_lt
  have h1 := b1.toNat_lt
  have h2 := b2.toNat_lt
  have h3 := b3.toNat_lt
  rw [UInt32.toNat_or, toNat_join32]
  simp only [UInt32.toNat_shiftLeft, UInt8.toNat_toUInt32, UInt32.reduceToNat, Nat.reduceMod]
  rw [shiftLeft_mod (by omega), or_shiftLeft (by omega)]
  omega

/-- The low 12 bits of three bytes. -/
theorem toNat_lower12 (low middle : UInt8) :
    (low.toUInt16 ||| ((middle.toUInt16 &&& 0x0F) <<< 8)).toNat =
      low.toNat + middle.toNat % 16 * 256 := by
  have hlow := low.toNat_lt
  simp only [UInt16.toNat_or, UInt16.toNat_shiftLeft, UInt16.toNat_and, UInt8.toNat_toUInt16,
    UInt16.reduceToNat, Nat.reduceMod, and_0x0F]
  rw [shiftLeft_mod (by omega), or_shiftLeft hlow]
  omega

/-- The high 12 bits of three bytes. -/
theorem toNat_upper12 (middle high : UInt8) :
    ((middle.toUInt16 >>> 4) ||| (high.toUInt16 <<< 4)).toNat =
      middle.toNat / 16 + high.toNat * 16 := by
  have hmiddle := middle.toNat_lt
  have hhigh := high.toNat_lt
  simp only [UInt16.toNat_or, UInt16.toNat_shiftLeft, UInt16.toNat_shiftRight,
    UInt8.toNat_toUInt16, UInt16.reduceToNat, Nat.reduceMod]
  rw [shiftLeft_mod (by omega), Nat.shiftRight_eq_div_pow, or_shiftLeft (by omega)]
  omega

end Bits
