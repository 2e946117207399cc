import SwbtDaemon.Bridge.UsbAdapterLocation

/-!
# The adapters of the host

The inventory of libusb devices in `btstack_bridge/production_btstack_impl.c`, and
`swbt_btstack_usb_adapter_location_apply` with the transport that a build has. What libusb answers is
an input.
-/

namespace Swbt

open CString

namespace UsbAdapterLocation

/-! ## The transport -/

/-- The USB transport that a build is made with. -/
inductive Build where
  | libusb
  | winusb
  /-- Neither of the two. -/
  | other
deriving DecidableEq, Repr

/-- The adapter that the transport has been told to open. -/
inductive Chosen where
  /-- `hci_transport_usb_set_bus_and_path`. -/
  | busAndPath (bus : UInt8) (ports : List UInt8)
  /-- `hci_transport_usb_set_location_path`. -/
  | locationPath (path : List UInt8)
deriving DecidableEq, Repr

/-- `swbt_btstack_usb_adapter_location_port_t`: which of the functions are there, and whether the
one for a location path takes the path. -/
structure Port where
  setWinusbLocationPath : Option (List UInt8 → Bool)
  setLibusbBusAndPath : Bool

/-- The port of `swbt_btstack_production_impl_configure_adapter_location`: `none` for a build
without a transport. -/
def Build.port (accepts : List UInt8 → Bool) : Build → Option Port
  | .libusb => some ⟨none, true⟩
  | .winusb => some ⟨some accepts, false⟩
  | .other => none

/-- `swbt_btstack_usb_adapter_location_apply`: what the transport is told, `none` when the result is
an error. -/
def apply (location : UsbAdapterLocation) (port : Port) : Option Chosen :=
  match location.backend with
  | .winusb =>
    match location.winusbLocationPath, port.setWinusbLocationPath with
    | some path, some accepts => if accepts path then some (.locationPath path) else none
    | _, _ => none
  | .libusb =>
    if location.libusbPortCount = 0 ∨ location.libusbPortCount > usbAdapterLocationMaxPorts ∨
        port.setLibusbBusAndPath = false then none
    else
      some (.busAndPath location.libusbBus
        (location.libusbPorts.toList.take location.libusbPortCount))
  | .none => none

/-- `swbt_btstack_production_impl_configure_adapter_location`: what the transport is told, `none`
when -1 is returned. -/
def configureAdapterLocation (build : Build) (accepts : List UInt8 → Bool)
    (location : List UInt8) : Option Chosen :=
  if location = [] then none
  else
    let (result, parsedLocation) := parse location
    if result ≠ .ok then none
    else
      match build.port accepts with
      | none => none
      | some port => apply parsedLocation port

/-! ## The inventory -/

/-- A device, with what libusb answers about it. -/
structure Device where
  /-- The descriptor, `none` when `libusb_get_device_descriptor` fails. -/
  descriptor : Option DeviceDescriptor
  bus : UInt8
  /-- The result of `libusb_get_port_numbers`, negative for an error. -/
  portCount : Int
  /-- The array that it fills. -/
  ports : Vector UInt8 usbAdapterLocationMaxPorts
deriving DecidableEq, Repr

/-- The array of `swbt_btstack_production_libusb_is_known_bluetooth_device`, in its pairs. -/
def knownBluetoothDevices : List (UInt16 × UInt16) :=
  [(0x0A5C, 0x21E8), (0x0B05, 0x17CB), (0x0A5C, 0x22BE), (0x2FE3, 0x0100), (0x2FE3, 0x000B)]

/-- `swbt_btstack_production_libusb_is_known_bluetooth_device`. -/
def isKnownBluetoothDevice (vendorId productId : UInt16) : Bool :=
  knownBluetoothDevices.any fun known => known.1 == vendorId && known.2 == productId

/-- `swbt_btstack_production_libusb_is_bluetooth_device`. -/
def isBluetoothDevice (descriptor : DeviceDescriptor) : Bool :=
  (descriptor.bDeviceClass == 0xE0 && descriptor.bDeviceSubClass == 0x01 &&
      descriptor.bDeviceProtocol == 0x01) ||
    isKnownBluetoothDevice descriptor.idVendor descriptor.idProduct

/-- What a listing has printed, and how many candidates. -/
structure Listing where
  out : List UInt8
  candidateCount : Nat
deriving DecidableEq, Repr

/-- A turn of the loop over the devices. -/
def listDevice (listing : Listing) (device : Device) : Listing :=
  match device.descriptor with
  | none => listing
  | some descriptor =>
    if !isBluetoothDevice descriptor then listing
    else if device.portCount ≤ 0 ∨ device.portCount > usbAdapterLocationMaxPorts then listing
    else
      { out := listing.out ++
          writeSelector device.bus descriptor (device.ports.toList.take device.portCount.toNat)
        candidateCount := listing.candidateCount + 1 }

/-- What libusb answers to a listing. -/
inductive LibusbAnswers where
  /-- `libusb_init` fails. -/
  | initFailed (result : Int)
  /-- `libusb_get_device_list` fails. -/
  | listFailed (deviceCount : Int)
  | devices (devices : List Device)

/-- What a listing leaves: whether it returns 0, and its output. -/
structure Listed where
  ok : Bool
  out : List UInt8
  err : List UInt8
deriving DecidableEq, Repr

/-- `swbt_btstack_production_write_int`. -/
def writeInt (value : Int) : List UInt8 := printSigned value

/-- `swbt_btstack_production_list_libusb_adapter_locations`. -/
def listLibusbAdapterLocations : LibusbAnswers → Listed
  | .initFailed result =>
    ⟨false, [], bytes "libusb_init failed: " ++ writeInt result ++ [0x0A]⟩
  | .listFailed deviceCount =>
    ⟨false, [], bytes "libusb_get_device_list failed: " ++ writeInt deviceCount ++ [0x0A]⟩
  | .devices devices =>
    let listing := devices.foldl listDevice ⟨[], 0⟩
    let out :=
      if listing.candidateCount = 0 then
        listing.out ++ bytes "No libusb Bluetooth adapter-location candidates found." ++ [0x0A]
      else listing.out
    ⟨true, out, []⟩

end UsbAdapterLocation

end Swbt
