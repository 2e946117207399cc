import Mathlib.Data.List.Basic

/-!
# What the build fixes

The code compiles for targets with 32-bit and with 64-bit `unsigned long`, and takes its version
text from the build.
-/

namespace Swbt

/-- The width of `unsigned long`. -/
inductive ULongWidth where
  | bits32
  | bits64
deriving DecidableEq, Repr

/-- The number of bits of an `unsigned long`. -/
def ULongWidth.bits : ULongWidth → Nat
  | .bits32 => 32
  | .bits64 => 64

/-- The target the daemon is compiled for. -/
class Platform where
  /-- The width of `unsigned long`. -/
  ulong : ULongWidth
  /-- `SWBT_VERSION_STRING`. -/
  versionString : List UInt8

/-- A build for a target with 64-bit `unsigned long` and the version text of the sources. -/
abbrev Platform.lp64 : Platform where
  ulong := .bits64
  versionString := "0.1.0-dev".toList.map fun c => c.toNat.toUInt8

/-- A build for a target with 32-bit `unsigned long`, such as Windows. -/
abbrev Platform.llp64 : Platform where
  ulong := .bits32
  versionString := Platform.lp64.versionString

end Swbt
