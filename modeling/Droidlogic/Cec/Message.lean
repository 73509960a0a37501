import Droidlogic.Lib.Bytes

set_option autoImplicit false

namespace Droidlogic.Cec

open Lib

def cecMessageBodyMaxLength : Nat := 16

def cecMessageImageViewOn : UInt8 := 0x04
def cecMessageTextViewOn : UInt8 := 0x0D
def cecMessageSetMenuLanguage : UInt8 := 0x32
def cecMessageStandby : UInt8 := 0x36
def cecMessagePlay : UInt8 := 0x41
def cecMessageDeckControl : UInt8 := 0x42
def cecMessageUserControlPressed : UInt8 := 0x44
def cecMessageSetOsdName : UInt8 := 0x47
def cecMessageSystemAudioModeRequest : UInt8 := 0x70
def cecMessageRoutingChange : UInt8 := 0x80
def cecMessageRoutingInformation : UInt8 := 0x81
def cecMessageActiveSource : UInt8 := 0x82
def cecMessageGivePhysicalAddress : UInt8 := 0x83
def cecMessageReportPhysicalAddress : UInt8 := 0x84
def cecMessageSetStreamPath : UInt8 := 0x86
def cecMessageDeviceVendorId : UInt8 := 0x87
def cecMessageReportPowerStatus : UInt8 := 0x90
def cecMessageInactiveSource : UInt8 := 0x9D
def cecMessageInitiateArc : UInt8 := 0xC0
def cecMessageReportArcInitiated : UInt8 := 0xC1
def cecMessageReportArcTerminated : UInt8 := 0xC2
def cecMessageRequestArcInitiation : UInt8 := 0xC3
def cecMessageRequestArcTermination : UInt8 := 0xC4
def cecMessageTerminateArc : UInt8 := 0xC5

def cecKeycodeUp : UInt8 := 0x01
def cecKeycodeRight : UInt8 := 0x04
def cecKeycodeRootMenu : UInt8 := 0x09
def cecKeycodePower : UInt8 := 0x40
def cecKeycodePowerOnFunction : UInt8 := 0x6D

def cecAddrTv : Nat := 0
def cecAddrUnregistered : Nat := 15
def cecAddrBroadcast : Nat := 15

-- unsigned char body[16]
structure Body where
  bytes : Bytes
  sized : bytes.length = cecMessageBodyMaxLength
deriving DecidableEq

def Body.at (body : Body) (i : Nat) : UInt8 := body.bytes.getD i 0

def Body.zero : Body := ⟨List.replicate cecMessageBodyMaxLength 0, List.length_replicate⟩

def Body.set (body : Body) (i : Nat) (value : UInt8) : Body :=
  ⟨body.bytes.set i value, by rw [List.length_set, body.sized]⟩

-- memcpy to the front of a body.
def Body.fill (body : Body) (source : Bytes) (fits : source.length ≤ cecMessageBodyMaxLength) : Body :=
  ⟨source ++ body.bytes.drop source.length, by
    rw [List.length_append, List.length_drop, body.sized, Nat.add_sub_cancel' fits]⟩

structure CecMessage where
  initiator : Nat
  destination : Nat
  length : Nat
  body : Body
  fits : length ≤ cecMessageBodyMaxLength
deriving DecidableEq

def CecMessage.payload (message : CecMessage) : Bytes := message.body.bytes.take message.length

def hdmiEventCecMessage : BitVec 32 := 1
def hdmiEventHotPlug : BitVec 32 := 2
def hdmiEventAddLogicalAddress : BitVec 32 := 4

structure HotplugEvent where
  connected : Int32
  portId : Int32
deriving DecidableEq

-- The members of the union are kept side by side.
structure HdmiCecEvent where
  eventType : BitVec 32
  cec : CecMessage
  hotplug : HotplugEvent
  logicalAddress : Int32
deriving DecidableEq

def HdmiCecEvent.blank : HdmiCecEvent := ⟨0, ⟨0, 0, 0, .zero, by decide⟩, ⟨0, 0⟩, 0⟩

@[simp] theorem payload_length (message : CecMessage) : message.payload.length = message.length := by
  rw [CecMessage.payload, List.length_take, message.body.sized, Nat.min_eq_left message.fits]

theorem payload_fill (initiator destination length : Nat) (body : Body) (source : Bytes)
    (fits : source.length ≤ cecMessageBodyMaxLength) (room : length ≤ cecMessageBodyMaxLength)
    (same : length = source.length) :
    (⟨initiator, destination, length, body.fill source fits, room⟩ : CecMessage).payload = source := by
  subst same
  rw [CecMessage.payload, Body.fill, List.take_left]

theorem at_set (body : Body) (i j : Nat) (value : UInt8) (inside : j < cecMessageBodyMaxLength) :
    (body.set i value).at j = if i = j then value else body.at j := by
  rw [Body.at, Body.set, List.getD_eq_getElem?_getD, List.getElem?_set]
  split
  · rename_i same
    rw [if_pos (body.sized ▸ same ▸ inside)]
    rfl
  · rfl

end Droidlogic.Cec
