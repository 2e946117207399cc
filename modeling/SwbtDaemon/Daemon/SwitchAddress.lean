import SwbtDaemon.Lib.Filling

/-!
# The text of a Switch address

`daemon/switch_address.c`. A `const char *` is the bytes from the pointer on, and what follows the
last of them reads as the terminator. Both readers stop at the first character they refuse, so they
never read past a terminator.
-/

namespace Swbt

namespace SwitchAddress

open Filling

/-- `char[SWBT_DAEMON_SWITCH_ADDRESS_TEXT_SIZE]`: seventeen characters and the terminator. -/
abbrev Text := Vector UInt8 18

/-- Six bytes of an address, the first of the text first. -/
abbrev Bytes := Vector UInt8 6

/-- `address[index]`. -/
def charAt (address : List UInt8) (index : Nat) : UInt8 := address.getD index 0

/-- `swbt_daemon_switch_address_hex_digit_to_upper`. -/
def hexDigitToUpper (value : UInt8) : Option UInt8 :=
  if value ≥ 0x30 ∧ value ≤ 0x39 then some value
  else if value ≥ 0x61 ∧ value ≤ 0x66 then some (value - 0x61 + 0x41)
  else if value ≥ 0x41 ∧ value ≤ 0x46 then some value
  else none

/-- `swbt_daemon_switch_address_hex_nibble`. -/
def hexNibble (value : UInt8) : Option UInt8 :=
  if value ≥ 0x30 ∧ value ≤ 0x39 then some (value - 0x30)
  else if value ≥ 0x61 ∧ value ≤ 0x66 then some (value - 0x61 + 10)
  else if value ≥ 0x41 ∧ value ≤ 0x46 then some (value - 0x41 + 10)
  else none

/-- `swbt_daemon_switch_address_hex_digit_upper`. -/
def hexDigitUpper (value : UInt8) : UInt8 :=
  if value < 10 then 0x30 + value else 0x41 + (value - 10)

/-- One round of the loop of `swbt_daemon_switch_address_normalize`: what it stores at `index`. -/
def normalizedChar (address : List UInt8) (index : Fin 17) : Option UInt8 :=
  let value := charAt address index
  if value = 0 then none
  else if (index.val + 1) % 3 = 0 then
    if value ≠ 0x3A then none else some 0x3A
  else hexDigitToUpper value

/-- `swbt_daemon_switch_address_normalize`: the result and the destination. The local array is
filled before it is copied, so that what it holds at first does not matter. -/
def normalize (dest : Text) (address : List UInt8) : Bool × Text :=
  let (ok, normalized) :=
    fill (normalizedChar address) (List.finRange 17) (Vector.replicate 17 0)
  if !ok then (false, dest)
  else if charAt address 17 ≠ 0 then (false, dest)
  else (true, normalized.push 0)

/-- One round of the loop of `swbt_daemon_switch_address_parse_bytes`: the byte it stores at
`index`. -/
def parsedByte (text : List UInt8) (index : Fin 6) : Option UInt8 :=
  let offset := index.val * 3
  match hexNibble (charAt text offset), hexNibble (charAt text (offset + 1)) with
  | some high, some low =>
    if index.val < 5 ∧ charAt text (offset + 2) ≠ 0x3A then none else some ((high <<< 4) ||| low)
  | _, _ => none

/-- `swbt_daemon_switch_address_parse_bytes`: the result and the address. The bytes are stored as
they are read. -/
def parseBytes (text : List UInt8) (address : Bytes) : Bool × Bytes :=
  let (ok, address) := fill (parsedByte text) (List.finRange 6) address
  (ok && charAt text 17 == 0, address)

/-- One round of the loop of `swbt_daemon_switch_address_format_bytes`. -/
def formatByte (address : Bytes) (text : Text) (index : Fin 6) : Text :=
  let text := text.set (index.val * 3) (hexDigitUpper (address.get index >>> 4))
  let text := text.set (index.val * 3 + 1) (hexDigitUpper (address.get index &&& 0x0F))
  if h : index.val < 5 then text.set (index.val * 3 + 2) 0x3A else text

/-- `swbt_daemon_switch_address_format_bytes`. -/
def formatBytes (address : Bytes) (text : Text) : Text :=
  ((List.finRange 6).foldl (formatByte address) text).set 17 0

end SwitchAddress

end Swbt
