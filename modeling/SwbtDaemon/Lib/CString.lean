import Mathlib.Algebra.Ring.Int.Defs
import Mathlib.Algebra.Ring.Nat
import Mathlib.Data.List.Basic
import Mathlib.Data.List.TakeWhile

/-!
# C strings

A C string is the list of its bytes without the terminator, and a pointer into a string is the
rest of the string from there on; the empty list is the terminator itself. The character classes
are those of the C locale. `strtoll`, `strtoul` and `strtoull` are the conversions of the C
standard, with their failures as data instead of `errno`.
-/

namespace CString

/-- The bytes of an ASCII literal. -/
def bytes (s : String) : List UInt8 := s.toList.map fun c => c.toNat.toUInt8

/-- The string that starts at an array of bytes: what precedes the first terminator. -/
def ofArray (data : List UInt8) : List UInt8 := data.takeWhile (· != 0)

/-- `isspace` in the C locale: space and the controls from tab to carriage return. -/
def isspace (c : UInt8) : Bool := c == 0x20 || (0x09 ≤ c && c ≤ 0x0D)

/-- Skips the white space that a pointer stands at. -/
def skipSpace (s : List UInt8) : List UInt8 := s.dropWhile isspace

theorem skipSpace_cons {c : UInt8} (h : isspace c = false) (cs : List UInt8) :
    skipSpace (c :: cs) = c :: cs := by
  unfold skipSpace
  rw [List.dropWhile_cons_of_neg (by simp [h])]

theorem skipSpace_append {before : List UInt8} (h : ∀ b ∈ before, isspace b = true)
    (cs : List UInt8) : skipSpace (before ++ cs) = skipSpace cs :=
  List.dropWhile_append_of_pos h

theorem skipSpace_eq_nil_iff (s : List UInt8) :
    skipSpace s = [] ↔ ∀ b ∈ s, isspace b = true := List.dropWhile_eq_nil_iff

/-- The value of a digit in bases up to sixteen. -/
def digitValue (c : UInt8) : Option Nat :=
  if 0x30 ≤ c && c ≤ 0x39 then some (c.toNat - 0x30)
  else if 0x61 ≤ c && c ≤ 0x66 then some (c.toNat - 0x61 + 10)
  else if 0x41 ≤ c && c ≤ 0x46 then some (c.toNat - 0x41 + 10)
  else none

/-- The value of `c` as a digit of base `base`. -/
def digitOf (base : Nat) (c : UInt8) : Option Nat :=
  (digitValue c).filter (· < base)

/-- Reads digits of base `base` as long as there are any, onto the value `acc` read so far. -/
def readDigits (base : Nat) (acc : Nat) : List UInt8 → Nat × List UInt8
  | [] => (acc, [])
  | c :: cs =>
    match digitOf base c with
    | some d => readDigits base (acc * base + d) cs
    | none => (acc, c :: cs)

/-- An optional sign: whether it is a minus, and the text after it. -/
def readSign : List UInt8 → Bool × List UInt8
  | 0x2D :: cs => (true, cs)
  | 0x2B :: cs => (false, cs)
  | cs => (false, cs)

/-- A number read by one of the conversions: its value, whether it was out of range, and the rest
of the text. -/
structure Converted (α : Type) where
  value : α
  outOfRange : Bool
  rest : List UInt8
deriving DecidableEq, Repr

/-- `strtoll(s, &end, 10)`: `none` when no conversion is performed. Out of range values saturate. -/
def strtoll (s : List UInt8) : Option (Converted Int) :=
  let (negative, text) := readSign (skipSpace s)
  match text with
  | c :: _ =>
    if (digitOf 10 c).isSome then
      let (magnitude, rest) := readDigits 10 0 text
      let value : Int := if negative then -(magnitude : Int) else magnitude
      if value > 2 ^ 63 - 1 then some ⟨2 ^ 63 - 1, true, rest⟩
      else if value < -2 ^ 63 then some ⟨-2 ^ 63, true, rest⟩
      else some ⟨value, false, rest⟩
    else none
  | [] => none

/-- `strtoul(s, &end, 10)` for an `unsigned long` of `width` bits: `none` when no conversion is
performed. A minus sign negates the value in the unsigned type. -/
def strtoul10 (width : Nat) (s : List UInt8) : Option (Converted Nat) :=
  let (negative, text) := readSign (skipSpace s)
  match text with
  | c :: _ =>
    if (digitOf 10 c).isSome then
      let (magnitude, rest) := readDigits 10 0 text
      if magnitude ≥ 2 ^ width then some ⟨2 ^ width - 1, true, rest⟩
      else if negative then some ⟨(2 ^ width - magnitude) % 2 ^ width, false, rest⟩
      else some ⟨magnitude, false, rest⟩
    else none
  | [] => none

/-- The optional `0x` before the digits of a base-sixteen conversion. It is part of the number
only when a digit follows. -/
def skipHexPrefix (s : List UInt8) : List UInt8 :=
  match s with
  | 0x30 :: x :: c :: cs =>
    if (x == 0x78 || x == 0x58) && (digitOf 16 c).isSome then c :: cs else s
  | _ => s

/-- `strtoul(s, &end, 16)` for an `unsigned long` of `width` bits: `none` when no conversion is
performed. A minus sign negates the value in the unsigned type. -/
def strtoul16 (width : Nat) (s : List UInt8) : Option (Converted Nat) :=
  let (negative, signless) := readSign (skipSpace s)
  let text := skipHexPrefix signless
  match text with
  | c :: _ =>
    if (digitOf 16 c).isSome then
      let (magnitude, rest) := readDigits 16 0 text
      if magnitude ≥ 2 ^ width then some ⟨2 ^ width - 1, true, rest⟩
      else if negative then some ⟨(2 ^ width - magnitude) % 2 ^ width, false, rest⟩
      else some ⟨magnitude, false, rest⟩
    else none
  | [] => none

/-- The base of a conversion that is asked to find it, and the text of the digits: sixteen after
`0x` when a digit follows, eight after `0`, else ten. -/
def readBase (s : List UInt8) : Nat × List UInt8 :=
  match s with
  | 0x30 :: x :: c :: cs =>
    if (x == 0x78 || x == 0x58) && (digitOf 16 c).isSome then (16, c :: cs) else (8, s)
  | 0x30 :: _ => (8, s)
  | _ => (10, s)

/-- `strtoull(s, &end, 0)`: `none` when no conversion is performed. A minus sign negates the value
in the unsigned type. -/
def strtoull0 (s : List UInt8) : Option (Converted Nat) :=
  let (negative, signless) := readSign (skipSpace s)
  let (base, text) := readBase signless
  match text with
  | c :: _ =>
    if (digitOf base c).isSome then
      let (magnitude, rest) := readDigits base 0 text
      if magnitude ≥ 2 ^ 64 then some ⟨2 ^ 64 - 1, true, rest⟩
      else if negative then some ⟨(2 ^ 64 - magnitude) % 2 ^ 64, false, rest⟩
      else some ⟨magnitude, false, rest⟩
    else none
  | [] => none

/-- `strtoll(s, &end, 0)`: `none` when no conversion is performed. Out of range values saturate. -/
def strtoll0 (s : List UInt8) : Option (Converted Int) :=
  let (negative, signless) := readSign (skipSpace s)
  let (base, text) := readBase signless
  match text with
  | c :: _ =>
    if (digitOf base c).isSome then
      let (magnitude, rest) := readDigits base 0 text
      let value : Int := if negative then -(magnitude : Int) else magnitude
      if value > 2 ^ 63 - 1 then some ⟨2 ^ 63 - 1, true, rest⟩
      else if value < -2 ^ 63 then some ⟨-2 ^ 63, true, rest⟩
      else some ⟨value, false, rest⟩
    else none
  | [] => none

/-- The decimal digits of a number, as `%u` and `%llu` print it. -/
def printUnsigned (n : Nat) : List UInt8 :=
  (Nat.toDigits 10 n).map fun c => c.toNat.toUInt8

/-- A signed number as `%d` prints it. -/
def printSigned (n : Int) : List UInt8 :=
  if n < 0 then 0x2D :: printUnsigned n.natAbs else printUnsigned n.natAbs

/-- The lower-case hexadecimal digit of a value below sixteen. -/
def hexDigit (n : Nat) : UInt8 :=
  if n < 10 then (0x30 + n).toUInt8 else (0x61 + (n - 10)).toUInt8

end CString
