import Droidlogic.Cec.Receive

set_option autoImplicit false

namespace Droidlogic.Cec

open Lib

def einval : Int := 22
def hdmiResultSuccess : Int := 0

-- The message of a sendMessage call on the binder.
structure CallMessage where
  initiator : Fin 16
  destination : Fin 16
  body : Bytes
deriving DecidableEq

-- DroidHdmiCec::sendMessage: the body behind the operands is what the stack holds.
def toNative (stack : Body) (call : CallMessage) : Option CecMessage :=
  if fits : call.body.length ≤ cecMessageBodyMaxLength then
    some ⟨call.initiator, call.destination, call.body.length, stack.fill call.body fits, fits⟩
  else none

def hasHandledByExtend (message : CecMessage) : Bool :=
  message.body.at 0 ∈ [cecMessageSetMenuLanguage, cecMessageInactiveSource]

-- The lowest logical address in the bitmap.
def ownAddress (device : CecDevice) : Nat :=
  if device.isTvDeviceType then cecAddrTv
  else ((List.range 15).find? fun i => (device.mAddrBitmap &&& 0x7fff).testBit i).getD 15

theorem payload_fits (message : CecMessage) : message.payload.length ≤ cecMessageBodyMaxLength := by
  rw [payload_length]
  exact message.fits

def sendExtMessage (device : CecDevice) (stack : Body) (message : CecMessage) : Option CecMessage :=
  if ownAddress device = cecAddrUnregistered then none
  else
    some
      { message with
        initiator := ownAddress device
        body := stack.fill message.payload (payload_fits message) }

def sameTop (first second : Nat) : Bool := first &&& 0xf000 = second &&& 0xf000

def avrAddr (device : CecDevice) : Nat := device.mAddedPhyAddrs[devTypeAudioSystem]

def arcPort (device : CecDevice) : Bool :=
  device.mpPortData.any fun port => port.physicalAddress = avrAddr device && port.arcSupported

def avrHasSubDevice (device : CecDevice) : Bool :=
  (List.finRange addrBroadcast).any fun index =>
    index.val ≠ devTypeAudioSystem && avrAddr device < device.mAddedPhyAddrs[index] &&
      sameTop device.mAddedPhyAddrs[index] (avrAddr device)

def avrRet (device : CecDevice) (para : Nat) : Int :=
  if avrAddr device = para ∧ arcPort device ∧ ¬avrHasSubDevice device then -1 else 0

-- The loop ends at the first device of the port.
def turnOnCalls (device : CecDevice) (para : Nat) : List QueueCall :=
  ((List.finRange addrBroadcast).find? fun index =>
      para ≠ 0 && sameTop device.mAddedPhyAddrs[index] para && para ≤ device.mAddedPhyAddrs[index]).toList.map
    fun index => .sendMsg (delayed msgTurnOnDevice (delayTimeoutMs * 2 / 7) [.ofNat index])

def preHandleOfSend (services : Services) (device : CecDevice) (message : CecMessage) : Int × List QueueCall :=
  let opcode := message.body.at 0
  let pressed := message.body.at 1
  if opcode = cecMessageRoutingChange then
    let para := word16 (message.body.at 3) (message.body.at 4)
    (avrRet device para, turnOnCalls device para)
  else if opcode = cecMessageSetStreamPath then
    (avrRet device (word16 (message.body.at 1) (message.body.at 2)), [])
  else if opcode = cecMessageUserControlPressed then
    if message.destination ≠ device.mActiveLogicalAddr ∧ cecKeycodeUp ≤ pressed ∧ pressed ≤ cecKeycodeRight then
      (0, [.sendMsg (delayed msgUserControlPressed (delayTimeoutMs / 14)
        [.ofNat message.initiator, .ofNat device.mActiveLogicalAddr, pressed])])
    else (0, [])
  else if opcode = cecMessageGivePhysicalAddress then
    if message.destination = devTypeAudioSystem ∧ ¬device.mWaitEdidUpdatedFinished then
      (-1, [.removeMsg msgGivePhysicalAddress,
        .sendMsg (delayed msgGivePhysicalAddress (delayTimeoutMs * 2 / 7) [.ofNat message.destination])])
    else (0, [])
  else if opcode = cecMessageStandby then (if services.deviceAutoPowerOff then 0 else -1, [])
  else if opcode = cecMessageSetMenuLanguage then (if services.setMenuLanguage then 0 else -1, [])
  else (0, [])

-- What sendMessage does before send(): the message that gets there, or the value it returns.
structure Route where
  sent : Except Int CecMessage
  calls : List QueueCall
  posted : Bool

def sendMessage (services : Services) (device : CecDevice) (stack : Body) (message : CecMessage) (isExtend : Bool) :
    Route :=
  if device.mFd < 0 then ⟨.error (-einval), [], false⟩
  else if ¬device.isCecEnabled then ⟨.error (-einval), [], false⟩
  else if isExtend then
    match sendExtMessage device stack message with
    | some msg => ⟨.ok msg, [], false⟩
    | none => ⟨.error (-1), [], false⟩
  else if device.mExtendControl = 0x03 ∧ hasHandledByExtend message then ⟨.error hdmiResultSuccess, [], false⟩
  else
    let (ret, calls) := preHandleOfSend services device message
    if ret < 0 then ⟨.error hdmiResultSuccess, calls, false⟩ else ⟨.ok message, calls, true⟩

def header (message : CecMessage) : UInt8 :=
  .ofNat ((message.initiator &&& 0xf) <<< 4 ||| (message.destination &&& 0xf))

-- The bytes given to write, none where msgBuf is overrun.
def send (message : CecMessage) : Option Bytes :=
  (overwrite (Body.zero.set 0 (header message)).bytes 1 message.payload).map fun msgBuf =>
    msgBuf.take (message.length + 1)

theorem send_short (message : CecMessage) (short : message.length ≤ 15) :
    send message = some (header message :: message.payload) := by
  have written := overwrite_middle [header message] (List.replicate message.length 0)
    (List.replicate (15 - message.length) 0) message.payload (by rw [payload_length, List.length_replicate])
  have whole : [header message] ++ List.replicate message.length 0 ++ List.replicate (15 - message.length) 0 =
      (Body.zero.set 0 (header message)).bytes := by
    rw [List.append_assoc, ← List.replicate_add, Nat.add_sub_cancel' short]
    rfl
  have sized := payload_length message
  rw [whole, List.length_singleton] at written
  rw [send, written, Option.map_some, List.singleton_append, List.cons_append, List.take_succ_cons, ← sized, List.take_left]

-- none is an index outside mAddedPhyAddrs.
def postHandleOfSend (device : CecDevice) (message : CecMessage) (result : Int) : Option CecDevice :=
  if message.length = 0 ∧ result ≠ 0 then
    if inside : message.destination < addrBroadcast then
      if device.mAddedPhyAddrs[message.destination] ≠ 0 then
        some { device with mAddedPhyAddrs := device.mAddedPhyAddrs.set message.destination 0 }
      else some device
    else none
  else some device

end Droidlogic.Cec
