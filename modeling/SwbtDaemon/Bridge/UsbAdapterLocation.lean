import SwbtDaemon.Lib.CString

/-!
# The selector of a USB adapter

`btstack_bridge/usb_adapter_location.c`, and the selector that the adapter listing of
`btstack_bridge/production_btstack_impl.c` prints for libusb.
-/

namespace Swbt

open CString

/-- `SWBT_BTSTACK_USB_ADAPTER_LOCATION_MAX_PORTS`. -/
abbrev usbAdapterLocationMaxPorts : Nat := 7

namespace UsbAdapterLocation

/-- The results of `swbt_btstack_usb_adapter_location_parse` for arguments that are not `NULL`. -/
inductive Result where
  | ok
  | invalidFormat
deriving DecidableEq, Repr

/-- `swbt_btstack_usb_adapter_location_backend_t`. -/
inductive Backend where
  | none
  | winusb
  | libusb
deriving DecidableEq, Repr

end UsbAdapterLocation

/-- `swbt_btstack_usb_adapter_location_t`, with the text that `winusb_location_path` points to. -/
structure UsbAdapterLocation where
  backend : UsbAdapterLocation.Backend
  winusbLocationPath : Option (List UInt8)
  libusbBus : UInt8
  libusbPortCount : Nat
  libusbPorts : Vector UInt8 usbAdapterLocationMaxPorts
deriving DecidableEq, Repr

namespace UsbAdapterLocation

/-- A location that is all zero. -/
def zero : UsbAdapterLocation := ⟨.none, none, 0, 0, Vector.replicate _ 0⟩

/-- `swbt_btstack_usb_adapter_location_has_prefix`. -/
def hasPrefix (text start : List UInt8) : Bool := start.isPrefixOf text

/-- `swbt_btstack_usb_adapter_location_is_digit`. -/
def isDigit (value : UInt8) : Bool := 0x30 ≤ value && value ≤ 0x39

/-- The loop of `swbt_btstack_usb_adapter_location_parse_u8`, with `value` and `has_digit`: `none` as
soon as the value is too large, else both and the cursor behind the digits. -/
def parseDigits (value : Nat) (hasDigit : Bool) : List UInt8 → Option (Nat × Bool × List UInt8)
  | [] => some (value, hasDigit, [])
  | c :: cs =>
    if isDigit c then
      let value := value * 10 + (c.toNat - 0x30)
      if value > 255 then none
      else parseDigits value true cs
    else some (value, hasDigit, c :: cs)

/-- `swbt_btstack_usb_adapter_location_parse_u8`: the value and the cursor behind it. -/
def parseU8 (cursor : List UInt8) : Option (UInt8 × List UInt8) :=
  match parseDigits 0 false cursor with
  | none => none
  | some (value, hasDigit, rest) =>
    if !hasDigit || value == 0 then none
    else some (value.toUInt8, rest)

/-- The loop over the ports in `swbt_btstack_usb_adapter_location_parse_libusb`, with the ports read
so far and as many free places as the array has left. -/
def parsePorts : Nat → List UInt8 → List UInt8 → Option (List UInt8)
  | _, ports, [] => some ports
  | 0, _, _ :: _ => none
  | free + 1, ports, c :: cs =>
    match parseU8 (c :: cs) with
    | none => none
    | some (port, []) => parsePorts free (ports ++ [port]) []
    | some (port, next :: rest) =>
      if next = 0x2E then
        if rest = [] then none
        else parsePorts free (ports ++ [port]) rest
      else none

/-- The location that `swbt_btstack_usb_adapter_location_parse_libusb` fills in. -/
def ofLibusb (bus : UInt8) (ports : List UInt8) : UsbAdapterLocation where
  backend := .libusb
  winusbLocationPath := none
  libusbBus := bus
  libusbPortCount := ports.length
  libusbPorts := Vector.ofFn fun index => ports.getD index.val 0

/-- `swbt_btstack_usb_adapter_location_parse_libusb` on the text behind `libusb:`. -/
def parseLibusb (cursor : List UInt8) (location : UsbAdapterLocation) :
    Result × UsbAdapterLocation :=
  match parseU8 cursor with
  | none => (.invalidFormat, location)
  | some (_, []) => (.invalidFormat, location)
  | some (bus, c :: cs) =>
    if c ≠ 0x3A then (.invalidFormat, location)
    else if cs = [] then (.invalidFormat, location)
    else
      match parsePorts usbAdapterLocationMaxPorts [] cs with
      | none => (.invalidFormat, location)
      | some ports => (.ok, ofLibusb bus ports)

/-- `swbt_btstack_usb_adapter_location_parse`: the result and the location. -/
def parse (text : List UInt8) : Result × UsbAdapterLocation :=
  if hasPrefix text (bytes "winusb:") then
    let locationPath := text.drop (bytes "winusb:").length
    if locationPath = [] then (.invalidFormat, zero)
    else (.ok, { zero with backend := .winusb, winusbLocationPath := some locationPath })
  else if hasPrefix text (bytes "libusb:") then
    parseLibusb (text.drop (bytes "libusb:").length) zero
  else (.invalidFormat, zero)

/-! ## The adapter listing -/

/-- The members of `struct libusb_device_descriptor` that the listing prints. -/
structure DeviceDescriptor where
  idVendor : UInt16
  idProduct : UInt16
  bDeviceClass : UInt8
  bDeviceSubClass : UInt8
  bDeviceProtocol : UInt8
deriving DecidableEq, Repr

/-- `swbt_btstack_production_write_uint`. -/
def writeUint (value : Nat) : List UInt8 := printUnsigned value

/-- `swbt_btstack_production_write_hex16`: `0x%04x` of the low sixteen bits. -/
def writeHex16 (value : Nat) : List UInt8 :=
  bytes "0x" ++
    [hexDigit (value / 4096 % 16), hexDigit (value / 256 % 16), hexDigit (value / 16 % 16),
      hexDigit (value % 16)]

/-- `swbt_btstack_production_write_hex8`: `0x%02x` of the low eight bits. -/
def writeHex8 (value : Nat) : List UInt8 :=
  bytes "0x" ++ [hexDigit (value / 16 % 16), hexDigit (value % 16)]

/-- The loop over the ports in `swbt_btstack_production_libusb_write_selector`; an entry is a port
with its index. -/
def writePorts (ports : List UInt8) : List UInt8 :=
  ports.zipIdx.flatMap fun entry =>
    (if entry.2 > 0 then [0x2E] else []) ++ writeUint entry.1.toNat

/-- What `swbt_btstack_production_libusb_write_selector` prints of the descriptor. -/
def writeDescriptor (descriptor : DeviceDescriptor) : List UInt8 :=
  bytes " vid=" ++ writeHex16 descriptor.idVendor.toNat ++
    bytes " pid=" ++ writeHex16 descriptor.idProduct.toNat ++
    bytes " class=" ++ writeHex8 descriptor.bDeviceClass.toNat ++
    bytes " subclass=" ++ writeHex8 descriptor.bDeviceSubClass.toNat ++
    bytes " protocol=" ++ writeHex8 descriptor.bDeviceProtocol.toNat ++ [0x0A]

/-- `swbt_btstack_production_libusb_write_selector`: the line of a device on the bus `bus`. -/
def writeSelector (bus : UInt8) (descriptor : DeviceDescriptor) (ports : List UInt8) :
    List UInt8 :=
  bytes "libusb:" ++ writeUint bus.toNat ++ [0x3A] ++ writePorts ports ++
    writeDescriptor descriptor

end UsbAdapterLocation

end Swbt
