import Mathlib.Data.List.GetD

/-!
# HID events

The decoder of `btstack_bridge/hid_event.c`.
-/

namespace Swbt

/-- `swbt_btstack_hid_event_type_t`. -/
inductive HidEventType where
  | none
  | connectionOpened
  | connectionClosed
  | canSendNow
  | userConfirmationRequest
deriving DecidableEq, Repr

/-- `swbt_btstack_hid_event_t`. -/
structure HidEvent where
  type : HidEventType
  hidCid : UInt16
  status : UInt8
  address : Vector UInt8 6
deriving DecidableEq

/-- `swbt_btstack_hid_event_result_t` of a call with a place for the event. -/
inductive HidEventResult where
  | ok
  | ignored
deriving DecidableEq, Repr

namespace HidEvent

/-- `HCI_EVENT_PACKET`. -/
def hciEventPacket : UInt8 := 0x04

/-- `HCI_EVENT_USER_CONFIRMATION_REQUEST`. -/
def hciEventUserConfirmationRequest : UInt8 := 0x33

/-- `HCI_EVENT_HID_META`. -/
def hciEventHidMeta : UInt8 := 0xEF

/-- `HID_SUBEVENT_CONNECTION_OPENED`. -/
def hidSubeventConnectionOpened : UInt8 := 0x02

/-- `HID_SUBEVENT_CONNECTION_CLOSED`. -/
def hidSubeventConnectionClosed : UInt8 := 0x03

/-- `HID_SUBEVENT_CAN_SEND_NOW`. -/
def hidSubeventCanSendNow : UInt8 := 0x04

/-- `swbt_btstack_hid_event_clear`. -/
def clear : HidEvent := ⟨.none, 0, 0, Vector.replicate 6 0⟩

/-- `packet[index]`. -/
def byteAt (packet : List UInt8) (index : Nat) : UInt8 := packet.getD index 0

/-- `swbt_btstack_hid_event_read_u16_le` at an offset of the packet. -/
def readU16Le (packet : List UInt8) (offset : Nat) : UInt16 :=
  (byteAt packet offset).toUInt16 ||| ((byteAt packet (offset + 1)).toUInt16 <<< 8)

/-- `swbt_btstack_hid_event_copy_reversed_address` from an offset of the packet. -/
def copyReversedAddress (packet : List UInt8) (offset : Nat) : Vector UInt8 6 :=
  #v[byteAt packet (offset + 5), byteAt packet (offset + 4), byteAt packet (offset + 3),
    byteAt packet (offset + 2), byteAt packet (offset + 1), byteAt packet offset]

/-- `swbt_btstack_hid_event_decode`: the result and the event. -/
def decode (packetType : UInt8) (packet : List UInt8) : HidEventResult × HidEvent :=
  if packetType ≠ hciEventPacket ∨ packet.length < 1 then (.ignored, clear)
  else if byteAt packet 0 = hciEventUserConfirmationRequest then
    if packet.length < 8 then (.ignored, clear)
    else
      (.ok, { clear with
        type := .userConfirmationRequest, address := copyReversedAddress packet 2 })
  else if ¬ (packet.length ≥ 3 ∧ byteAt packet 0 = hciEventHidMeta) then (.ignored, clear)
  else if byteAt packet 2 = hidSubeventConnectionOpened then
    if packet.length < 15 then (.ignored, clear)
    else
      (.ok, ⟨.connectionOpened, readU16Le packet 3, byteAt packet 5, copyReversedAddress packet 6⟩)
  else if byteAt packet 2 = hidSubeventConnectionClosed then
    if packet.length < 5 then (.ignored, clear)
    else (.ok, { clear with type := .connectionClosed, hidCid := readU16Le packet 3 })
  else if byteAt packet 2 = hidSubeventCanSendNow then
    if packet.length < 5 then (.ignored, clear)
    else (.ok, { clear with type := .canSendNow, hidCid := readU16Le packet 3 })
  else (.ignored, clear)

end HidEvent

end Swbt
