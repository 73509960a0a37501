import Droidlogic.Cec.Device

set_option autoImplicit false

namespace Droidlogic.Cec

open Lib

def chiLanguage : Nat := 0x636869
def korLanguage : Nat := 0x6b6f72
def lgTvVendorId : Nat := 0x00e091
def vendorIds : List Nat := [lgTvVendorId, 0x4d5354, 0x0000f0]

def powerStatusStandby : UInt8 := 1
def powerStatusTransientToStandby : UInt8 := 3

-- What readMessage has put into msgBuf.
structure Frame where
  bytes : Bytes
  fits : bytes.length ≤ cecMessageBodyMaxLength
deriving DecidableEq

def Frame.msgBuf (frame : Frame) : Body := Body.zero.fill frame.bytes frame.fits

-- msgBuf + 1, r - 1 bytes of it.
def operands (msgBuf : Body) (r : Nat) : Bytes := (msgBuf.bytes.drop 1).take (r - 1)

theorem operands_fit (msgBuf : Body) (r : Nat) : (operands msgBuf r).length ≤ cecMessageBodyMaxLength := by
  have sized := msgBuf.sized
  rw [operands, List.length_take, List.length_drop]
  omega

def word16 (high low : UInt8) : Nat := high.toNat * 256 + low.toNat

def word24 (high middle low : UInt8) : Nat := high.toNat * 65536 + middle.toNat * 256 + low.toNat

def devPhyAddr (event : HdmiCecEvent) : Nat := word16 (event.cec.body.at 1) (event.cec.body.at 2)

def operand24 (event : HdmiCecEvent) : Nat :=
  word24 (event.cec.body.at 1) (event.cec.body.at 2) (event.cec.body.at 3)

def decode (event : HdmiCecEvent) (frame : Frame) (r : Nat) (some_byte : r ≤ cecMessageBodyMaxLength) : HdmiCecEvent :=
  { event with
    eventType := 0
    cec :=
      { initiator := (frame.msgBuf.at 0 >>> 4 &&& 0xf).toNat
        destination := (frame.msgBuf.at 0 &&& 0xf).toNat
        length := r - 1
        body := event.cec.body.fill (operands frame.msgBuf r) (operands_fit frame.msgBuf r)
        fits := (Nat.sub_le r 1).trans some_byte } }

-- char is unsigned on ARM.
def wakeUpBy (deviceType : Nat) (msgBuf : Body) (len : Nat) : Body × Bool :=
  let opcode := msgBuf.at 1
  if deviceType = devTypePlayback then
    if opcode ∈ [cecMessageSetStreamPath, cecMessageDeckControl, cecMessagePlay, cecMessageActiveSource] then
      (msgBuf, true)
    else if opcode = cecMessageRoutingChange then
      let first := msgBuf.set 1 cecMessageSetStreamPath
      let second := first.set 2 (first.at (len - 2))
      let third := second.set 3 (second.at (len - 1))
      ((third.set (len - 2) 0).set (len - 1) 0, true)
    else if opcode = cecMessageUserControlPressed then
      (msgBuf, msgBuf.at 2 ∈ [cecKeycodePower, cecKeycodeRootMenu, cecKeycodePowerOnFunction])
    else (msgBuf, false)
  else if deviceType = devTypeTv then
    (msgBuf, opcode ∈ [cecMessageImageViewOn, cecMessageTextViewOn, cecMessageActiveSource])
  else if deviceType = devTypeAudioSystem then
    (msgBuf, opcode ∈ [cecMessageSystemAudioModeRequest, cecMessageUserControlPressed])
  else (msgBuf, false)

def isWakeUpMsg (len : Nat) : List Nat → Body → Body × Bool
  | [], msgBuf => (msgBuf, false)
  | deviceType :: rest, msgBuf =>
      let (here, hit) := wakeUpBy deviceType msgBuf len
      let (last, later) := isWakeUpMsg len rest here
      (last, hit || later)

def control (device : CecDevice) (frame : Frame) (r : Nat) (event : HdmiCecEvent) : HdmiCecEvent :=
  if device.isCecControlled then { event with eventType := event.eventType ||| hdmiEventCecMessage }
  else
    let (msgBuf, wakeUp) := isWakeUpMsg r device.mDeviceTypes frame.msgBuf
    if wakeUp then
      { event with
        eventType := event.eventType ||| hdmiEventCecMessage
        cec := { event.cec with body := Body.zero.fill (operands msgBuf r) (operands_fit msgBuf r) } }
    else event

def HdmiCecEvent.drop (event : HdmiCecEvent) : HdmiCecEvent :=
  { event with eventType := event.eventType &&& ~~~hdmiEventCecMessage }

def isCompatVendor (vendorId language : Nat) : Bool :=
  (language = chiLanguage && vendorIds.contains vendorId) || (language = korLanguage && vendorId = lgTvVendorId)

def compatLangIfneeded (vendorId language : Nat) (event : HdmiCecEvent) : HdmiCecEvent :=
  if isCompatVendor vendorId language then
    { event with cec := { event.cec with body := ((event.cec.body.set 1 0x7a).set 2 0x68).set 3 0x6f } }
  else event

def handleSetMenuLanguage (services : Services) (device : CecDevice) (event : HdmiCecEvent) : HdmiCecEvent :=
  if services.setMenuLanguage then compatLangIfneeded device.mTvDeviceVendorId (operand24 event) event
  else event.drop

structure Handled where
  device : CecDevice
  event : HdmiCecEvent
  calls : List QueueCall

-- none is an index outside mAddedPhyAddrs.
def messageValidateAndHandle (services : Services) (device : CecDevice) (event : HdmiCecEvent) : Option Handled :=
  let opcode := event.cec.body.at 0
  let initiator := event.cec.initiator
  if device.isTvDeviceType then
    if opcode = cecMessageReportPhysicalAddress then
      if event.cec.body.at 1 = 0 then
        some ⟨device, event.drop,
          [.removeMsg msgGivePhysicalAddress,
            .sendMsg (delayed msgGivePhysicalAddress (delayTimeoutMs / 14) [.ofNat initiator])]⟩
      else if inside : initiator < addrBroadcast then
        some ⟨{ device with mAddedPhyAddrs := device.mAddedPhyAddrs.set initiator (devPhyAddr event) }, event, []⟩
      else none
    else if opcode = cecMessageReportPowerStatus then
      -- The power status is looked for in the opcode.
      if initiator = device.mActiveLogicalAddr ∧ opcode ∈ [powerStatusStandby, powerStatusTransientToStandby] then
        some ⟨device, event, [.sendMsg (delayed msgTurnOnDevice (delayTimeoutMs / 7) [.ofNat initiator])]⟩
      else some ⟨device, event, []⟩
    else if opcode = cecMessageRoutingInformation then
      if event.cec.destination = addrBroadcast ∧ event.cec.body.at 1 &&& 0x0f ≠ 0 then
        some ⟨device, event,
          [.removeMsg msgSetStreamPath,
            .sendMsg (delayed msgSetStreamPath 10 [event.cec.body.at 1, event.cec.body.at 2])]⟩
      else some ⟨device, event, []⟩
    else some ⟨device, event, []⟩
  else if device.isPlaybackDeviceType then
    if opcode = cecMessageSetOsdName then
      some ⟨{ device with mTvOsdName := word16 (event.cec.body.at 1) (event.cec.body.at 2) }, event, []⟩
    else if opcode = cecMessageDeviceVendorId then
      some ⟨{ device with mTvDeviceVendorId := operand24 event }, event, []⟩
    else if opcode = cecMessageSetMenuLanguage then
      some ⟨device, handleSetMenuLanguage services device event, []⟩
    else some ⟨device, event, []⟩
  else some ⟨device, event, []⟩

-- The last port that is found, 0 when there is none.
def portOf (ports : List HdmiPortInfo) (addr : Nat) : Int :=
  ports.foldl (fun portId port => if port.physicalAddress = addr &&& 0xf000 then port.portId else portId) 0

def otpOffset : Int := 4

def handleOTPMsg (device : CecDevice) (event : HdmiCecEvent) : CecDevice × HdmiCecEvent :=
  if device.isTvDeviceType ∧ event.cec.body.at 0 = cecMessageActiveSource then
    if device.mFilterOtpEnabled ∧ device.mSelectedDeviceId ≠ portOf device.mpPortData (devPhyAddr event) + otpOffset then
      (device, event.drop)
    else
      ({ device with mActiveLogicalAddr := event.cec.initiator, mActiveRoutingPath := devPhyAddr event }, event)
  else (device, event)

def arcMessages : List UInt8 :=
  [cecMessageInitiateArc, cecMessageReportArcInitiated, cecMessageReportArcTerminated, cecMessageRequestArcInitiation,
    cecMessageRequestArcTermination, cecMessageTerminateArc]

-- As threadLoop calls it, with an event and no message.
def supportForEARC (services : Services) (event : HdmiCecEvent) : HdmiCecEvent :=
  if event.cec.body.at 0 ∈ arcMessages ∧ services.earcSupport then event.drop else event

-- The event as threadLoop has built it when it calls the handlers.
def build (device : CecDevice) (event : HdmiCecEvent) (frame : Frame) : HdmiCecEvent :=
  control device frame frame.bytes.length (decode event frame frame.bytes.length frame.fits)

structure Pass where
  device : CecDevice
  event : HdmiCecEvent
  calls : List QueueCall
  onEventUpdate : Option HdmiCecEvent

-- One pass of threadLoop with what readMessage returns. The event outlives the pass.
def receive (services : Services) (device : CecDevice) (event : HdmiCecEvent) (frame : Frame) : Option Pass :=
  if frame.bytes.length ≤ 1 then some ⟨device, event, [], none⟩
  else
    (messageValidateAndHandle services device (build device event frame)).map fun handled =>
      let (last, filtered) := handleOTPMsg handled.device handled.event
      let shown := supportForEARC services filtered
      ⟨last, shown, handled.calls, if shown.eventType = 0 then none else some shown⟩

theorem wake_by_same (deviceType len : Nat) (msgBuf : Body)
    (plain : deviceType ≠ devTypePlayback ∨ msgBuf.at 1 ≠ cecMessageRoutingChange) :
    (wakeUpBy deviceType msgBuf len).1 = msgBuf := by
  rw [wakeUpBy]
  by_cases playback : deviceType = devTypePlayback
  · have other : msgBuf.at 1 ≠ cecMessageRoutingChange := plain.resolve_left (not_not_intro playback)
    simp only [if_pos playback, if_neg other]
    split
    · rfl
    · split
      · rfl
      · rfl
  · simp only [if_neg playback]
    split
    · rfl
    · split
      · rfl
      · rfl

-- Without the rewriting every type looks at the frame as it came.
theorem wake_same (len : Nat) (types : List Nat) (msgBuf : Body)
    (plain : devTypePlayback ∉ types ∨ msgBuf.at 1 ≠ cecMessageRoutingChange) :
    isWakeUpMsg len types msgBuf = (msgBuf, types.any fun deviceType => (wakeUpBy deviceType msgBuf len).2) := by
  induction types with
  | nil => rfl
  | cons deviceType rest ih =>
      have stays := wake_by_same deviceType len msgBuf (plain.imp_left fun absent same => absent (same ▸ .head _))
      have later := ih (plain.imp_left fun absent member => absent (.tail _ member))
      simp only [isWakeUpMsg, stays, later, List.any_cons]

-- What a rewritten buffer has in place of the opcode.
def Rewritten (msgBuf : Body) : Prop := msgBuf.at 1 = cecMessageSetStreamPath ∨ msgBuf.at 1 = 0

theorem rewritten_ne (msgBuf : Body) (opcode : UInt8) (rewritten : Rewritten msgBuf)
    (other : opcode ≠ cecMessageSetStreamPath) (some_opcode : opcode ≠ 0) : msgBuf.at 1 ≠ opcode := by
  rcases rewritten with same | same
  · exact same ▸ Ne.symm other
  · exact same ▸ Ne.symm some_opcode

theorem wake_by_rewrites (len : Nat) (msgBuf : Body) (opcode : msgBuf.at 1 = cecMessageRoutingChange) :
    (wakeUpBy devTypePlayback msgBuf len).2 = true ∧ Rewritten (wakeUpBy devTypePlayback msgBuf len).1 := by
  have listed : cecMessageRoutingChange ∉
      [cecMessageSetStreamPath, cecMessageDeckControl, cecMessagePlay, cecMessageActiveSource] := by decide
  have inside : 1 < cecMessageBodyMaxLength := by decide
  rw [wakeUpBy]
  simp only [if_true, opcode, if_neg listed]
  refine ⟨trivial, ?_⟩
  rw [Rewritten, at_set _ _ _ _ inside]
  split
  · exact .inr rfl
  · rw [at_set _ _ _ _ inside]
    split
    · exact .inr rfl
    · rw [at_set _ _ _ _ inside, if_neg (by decide), at_set _ _ _ _ inside, if_neg (by decide),
        at_set _ _ _ _ inside, if_pos rfl]
      exact .inl rfl

-- The rewriting is done once, by the first playback type.
theorem wake_rewrites (len : Nat) (types : List Nat) (msgBuf : Body) (playback : devTypePlayback ∈ types)
    (opcode : msgBuf.at 1 = cecMessageRoutingChange) :
    isWakeUpMsg len types msgBuf = wakeUpBy devTypePlayback msgBuf len := by
  obtain ⟨hit, rewritten⟩ := wake_by_rewrites len msgBuf opcode
  induction types with
  | nil => cases playback
  | cons deviceType rest ih =>
      rw [isWakeUpMsg]
      by_cases same : deviceType = devTypePlayback
      · subst same
        have changed := rewritten_ne _ cecMessageRoutingChange rewritten (by decide) (by decide)
        simp only [wake_same len rest _ (.inr changed), hit, Bool.true_or]
        exact Prod.ext rfl hit.symm
      · have later := ih ((List.mem_cons.mp playback).resolve_left (Ne.symm same))
        simp only [wake_by_same deviceType len msgBuf (.inl same), later, hit, Bool.or_true]
        exact Prod.ext rfl hit.symm

theorem buffer_at (frame : Frame) (i : Nat) (byte : UInt8) (there : frame.bytes[i]? = some byte) :
    frame.msgBuf.at i = byte := by
  obtain ⟨inside, _⟩ := List.getElem?_eq_some_iff.mp there
  rw [Body.at, Frame.msgBuf, Body.fill, List.getD_eq_getElem?_getD, List.getElem?_append_left inside, there]
  rfl

theorem operands_whole (frame : Frame) (head : UInt8) (body : Bytes) (bytes : frame.bytes = head :: body) :
    operands frame.msgBuf frame.bytes.length = body := by
  have buffer : frame.msgBuf.bytes = frame.bytes ++ Body.zero.bytes.drop frame.bytes.length := rfl
  rw [operands, buffer, bytes]
  exact List.take_left

theorem operands_length (msgBuf : Body) (r : Nat) (fits : r ≤ cecMessageBodyMaxLength) :
    r - 1 = (operands msgBuf r).length := by
  rw [operands, List.length_take, List.length_drop, msgBuf.sized]
  omega

theorem operands_head (msgBuf : Body) (r : Nat) (byte : UInt8) (head : (operands msgBuf r).head? = some byte) :
    msgBuf.at 1 = byte := by
  rw [List.head?_eq_getElem?, operands, List.getElem?_take] at head
  split at head
  · rw [List.getElem?_drop] at head
    rw [Body.at, List.getD_eq_getElem?_getD, head]
    rfl
  · cases head

theorem fill_operands_at (body msgBuf : Body) (r i : Nat) (inside : i + 1 < r) (fits : r ≤ cecMessageBodyMaxLength) :
    (body.fill (operands msgBuf r) (operands_fit msgBuf r)).at i = msgBuf.at (i + 1) := by
  have below : i < (operands msgBuf r).length := by
    rw [← operands_length msgBuf r fits]
    omega
  rw [Body.at, Body.fill, List.getD_eq_getElem?_getD, List.getElem?_append_left below, operands, List.getElem?_take,
    if_pos (by omega), List.getElem?_drop, Nat.add_comm 1 i, Body.at, List.getD_eq_getElem?_getD]

section
variable (device : CecDevice) (event : HdmiCecEvent) (frame : Frame)

theorem build_header : (build device event frame).cec.initiator = (frame.msgBuf.at 0 >>> 4 &&& 0xf).toNat ∧
    (build device event frame).cec.destination = (frame.msgBuf.at 0 &&& 0xf).toNat ∧
      (build device event frame).cec.length = frame.bytes.length - 1 := by
  rw [build, control]
  split
  · exact ⟨rfl, rfl, rfl⟩
  · simp only
    split
    · exact ⟨rfl, rfl, rfl⟩
    · exact ⟨rfl, rfl, rfl⟩

theorem build_at (i : Nat) (inside : i + 1 < frame.bytes.length)
    (plain : frame.msgBuf.at 1 ≠ cecMessageRoutingChange) :
    (build device event frame).cec.body.at i = frame.msgBuf.at (i + 1) := by
  have stays := wake_same frame.bytes.length device.mDeviceTypes frame.msgBuf (.inr plain)
  rw [build, control]
  split
  · exact fill_operands_at _ _ _ _ inside frame.fits
  · simp only [stays]
    split
    · exact fill_operands_at _ _ _ _ inside frame.fits
    · exact fill_operands_at _ _ _ _ inside frame.fits

theorem build_routing (inside : 1 < frame.bytes.length) (routing : frame.msgBuf.at 1 = cecMessageRoutingChange) :
    (build device event frame).cec.body.at 0 ∈ [cecMessageRoutingChange, cecMessageSetStreamPath, 0] := by
  have decoded : (decode event frame frame.bytes.length frame.fits).cec.body.at 0 = cecMessageRoutingChange :=
    (fill_operands_at _ _ _ 0 inside frame.fits).trans routing
  rw [build, control]
  split
  · exact decoded ▸ .head _
  · simp only
    split
    · have opcode := fill_operands_at .zero (isWakeUpMsg frame.bytes.length device.mDeviceTypes frame.msgBuf).1 _ 0
        inside frame.fits
      simp only [opcode]
      by_cases playback : devTypePlayback ∈ device.mDeviceTypes
      · rw [wake_rewrites _ _ _ playback routing]
        rcases (wake_by_rewrites frame.bytes.length _ routing).2 with same | same
        · exact same ▸ .tail _ (.head _)
        · exact same ▸ .tail _ (.tail _ (.head _))
      · rw [wake_same _ _ _ (.inl playback), routing]
        exact .head _
    · exact decoded ▸ .head _

end

end Droidlogic.Cec
