import Mathlib.Data.List.Basic

/-!
# The SPI flash of the controller

`switch_spi.c` and `switch_spi_seed.c`: a storage of `0x10000` bytes inside an address space of
`0x80000`, and the seeding of that storage from a profile.
-/

namespace Swbt.Spi

/-- `SWBT_SWITCH_SPI_ADDRESS_LIMIT`. -/
def addressLimit : UInt32 := 0x80000

/-- `SWBT_SWITCH_SPI_STORAGE_SIZE`. -/
def storageSize : Nat := 0x10000

/-- `SWBT_SWITCH_SPI_MAX_READ_SIZE`. -/
def maxReadSize : UInt8 := 0x1D

/-- `SWBT_SWITCH_SPI_ERASED_BYTE`. -/
def erasedByte : UInt8 := 0xFF

/-- `swbt_switch_spi_t`. -/
structure Flash where
  data : Fin storageSize → UInt8
  defaultValue : UInt8

/-- The error codes of `swbt_switch_spi_result_t`. -/
inductive Error where
  | invalidArgument
  | addressOutOfRange
  | readTooLarge
  | bufferTooSmall
deriving DecidableEq, Repr

/-- `swbt_switch_spi_init`. -/
def init : Flash where
  data := fun _ => erasedByte
  defaultValue := erasedByte

/-- `swbt_switch_spi_write`: the bytes of `data` from `address` on. -/
def write (spi : Flash) (address : UInt32) (data : List UInt8) : Except Error Flash :=
  if data.length > storageSize then .error .addressOutOfRange
  else if address.toNat > storageSize - data.length then .error .addressOutOfRange
  else
    .ok { spi with
      data := fun i =>
        if address.toNat ≤ i.val then data.getD (i.val - address.toNat) (spi.data i)
        else spi.data i }

/-- The byte `swbt_switch_spi_read` reads at one absolute address. -/
def readByte (spi : Flash) (absoluteAddress : UInt32) : UInt8 :=
  if h : absoluteAddress.toNat < storageSize then spi.data ⟨absoluteAddress.toNat, h⟩
  else spi.defaultValue

/-- `swbt_switch_spi_read` into a buffer of `outCapacity` bytes. -/
def read (spi : Flash) (address : UInt32) (size : UInt8) (outCapacity : Nat) :
    Except Error (List UInt8) :=
  if size > maxReadSize then .error .readTooLarge
  else if address > addressLimit - size.toUInt32 then .error .addressOutOfRange
  else if outCapacity < size.toNat then .error .bufferTooSmall
  else .ok ((List.range size.toNat).map fun index => readByte spi (address + index.toUInt32))

/-- One entry of a seed profile: `swbt_switch_spi_seed_entry_t`. -/
structure SeedEntry where
  address : UInt32
  data : List UInt8
deriving DecidableEq, Repr

/-- `swbt_switch_spi_seed_profile_t`. -/
structure SeedProfile where
  deviceType : List UInt8
  controllerColors : List UInt8
  factoryImuCalibration : List UInt8
  leftStickCalibration : List UInt8
  rightStickCalibration : List UInt8
  userLeftStickMagic : List UInt8
  userRightStickMagic : List UInt8
  userImuMagic : List UInt8
  extraEntries : List SeedEntry
deriving DecidableEq, Repr

/-- The required fields of a profile as entries, in the order `swbt_switch_spi_seed_apply` writes
them, each with the length that `validate_profile` demands. -/
def SeedProfile.requiredFields (p : SeedProfile) : List (SeedEntry × Nat) :=
  [(⟨0x6012, p.deviceType⟩, 1),
    (⟨0x6050, p.controllerColors⟩, 6),
    (⟨0x6020, p.factoryImuCalibration⟩, 24),
    (⟨0x603D, p.leftStickCalibration⟩, 9),
    (⟨0x6046, p.rightStickCalibration⟩, 9),
    (⟨0x8010, p.userLeftStickMagic⟩, 2),
    (⟨0x801B, p.userRightStickMagic⟩, 2),
    (⟨0x8026, p.userImuMagic⟩, 2)]

/-- An address range of `seed_range_t`. -/
structure SeedRange where
  address : UInt32
  dataLen : Nat
deriving DecidableEq, Repr

/-- The `fixed_ranges` of `validate_extra_entries`. -/
def fixedRanges : List SeedRange :=
  [⟨0x6012, 1⟩, ⟨0x6050, 6⟩, ⟨0x6020, 24⟩, ⟨0x603D, 9⟩, ⟨0x6046, 9⟩, ⟨0x8010, 2⟩, ⟨0x801B, 2⟩,
    ⟨0x8026, 2⟩]

/-- `ranges_overlap`, with the 32-bit range ends of the source. -/
def rangesOverlap (lhs rhs : SeedRange) : Bool :=
  let lhsEnd := lhs.address + lhs.dataLen.toUInt32
  let rhsEnd := rhs.address + rhs.dataLen.toUInt32
  lhs.address < rhsEnd && rhs.address < lhsEnd

/-- The range an entry covers. -/
def SeedEntry.range (e : SeedEntry) : SeedRange := ⟨e.address, e.data.length⟩

/-- `validate_entry_boundary`. -/
def validateEntryBoundary (entry : SeedEntry) : Except Error Unit :=
  if entry.data.length = 0 then .error .invalidArgument
  else if entry.data.length > storageSize then .error .addressOutOfRange
  else if entry.address.toNat > storageSize - entry.data.length then .error .addressOutOfRange
  else .ok ()

/-- `validate_extra_entries`: `previous` are the entries already checked. -/
def validateExtraEntries (previous : List SeedEntry) : List SeedEntry → Except Error Unit
  | [] => .ok ()
  | entry :: entries => do
    validateEntryBoundary entry
    if fixedRanges.any (rangesOverlap entry.range) then throw .invalidArgument
    if previous.any (fun p => rangesOverlap entry.range p.range) then throw .invalidArgument
    validateExtraEntries (previous ++ [entry]) entries

/-- `validate_profile`. -/
def validateProfile (profile : SeedProfile) : Except Error Unit :=
  if profile.requiredFields.any (fun f => f.1.data.length ≠ f.2) then .error .invalidArgument
  else validateExtraEntries [] profile.extraEntries

/-- A run of `write_entry` calls that stops at the first failing one. -/
def writeEntries (spi : Flash) : List SeedEntry → Except Error Flash
  | [] => .ok spi
  | entry :: entries => do
    let spi ← write spi entry.address entry.data
    writeEntries spi entries

/-- `swbt_switch_spi_seed_apply`. -/
def seedApply (spi : Flash) (profile : SeedProfile) : Except Error Flash := do
  validateProfile profile
  writeEntries spi (profile.requiredFields.map Prod.fst ++ profile.extraEntries)

/-- The run of `write_entry` calls on the memory itself: the result, and the content after the
call. A failing call leaves what the calls before it wrote. -/
def writeEntriesInPlace (spi : Flash) : List SeedEntry → Except Error Unit × Flash
  | [] => (.ok (), spi)
  | entry :: entries =>
    match write spi entry.address entry.data with
    | .error error => (.error error, spi)
    | .ok spi => writeEntriesInPlace spi entries

/-- `swbt_switch_spi_seed_apply` on the memory itself: the result, and the content after the call,
whether it succeeds or not. -/
def seedApplyInPlace (spi : Flash) (profile : SeedProfile) : Except Error Unit × Flash :=
  match validateProfile profile with
  | .error error => (.error error, spi)
  | .ok () =>
    writeEntriesInPlace spi (profile.requiredFields.map Prod.fst ++ profile.extraEntries)

/-- `swbt_switch_spi_seed_dev_profile`. -/
def seedDevProfile : SeedProfile where
  deviceType := [0x03]
  controllerColors := [0x0D, 0x0D, 0x0D, 0xFF, 0xFF, 0xFF]
  factoryImuCalibration :=
    [0xB0, 0xFF, 0xB9, 0xFE, 0xE0, 0x00, 0x00, 0x40, 0x00, 0x40, 0x00, 0x40,
      0x0E, 0x00, 0xDF, 0xFF, 0xD0, 0xFF, 0x3B, 0x34, 0x3B, 0x34, 0x3B, 0x34]
  leftStickCalibration := [0xB2, 0xA1, 0x20, 0x80, 0xF0, 0x7F, 0x10, 0x80, 0x00]
  rightStickCalibration := [0xB2, 0xA1, 0x30, 0x80, 0xE0, 0x7F, 0x20, 0x80, 0x00]
  userLeftStickMagic := [0xB2, 0xA1]
  userRightStickMagic := [0xB2, 0xA1]
  userImuMagic := [0xB2, 0xA1]
  extraEntries := []

end Swbt.Spi
