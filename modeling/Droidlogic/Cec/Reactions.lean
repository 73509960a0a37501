import Droidlogic.Cec.Send

set_option autoImplicit false

namespace Droidlogic.Cec.Reactions

open Lib MsgQueue

def cecMessageUserControlReleased : UInt8 := 0x45
def cecMessageGiveOsdName : UInt8 := 0x46
def cecMessageGiveDeviceVendorId : UInt8 := 0x8C
def cecMessageGetMenuLanguage : UInt8 := 0x91

def para (msg : CMessage) (i : Fin 5120) : UInt8 := msg.mpPara i

theorem one_fits : 1 ≤ cecMessageBodyMaxLength := by decide
theorem two_fits : 2 ≤ cecMessageBodyMaxLength := by decide
theorem three_fits : 3 ≤ cecMessageBodyMaxLength := by decide

-- The message starts as what the stack holds.
def turnOnDevice (device : CecDevice) (stack : Body) (logicalAddress : Nat) : List CecMessage :=
  let body := (stack.set 0 cecMessageUserControlPressed).set 1 cecKeycodePowerOnFunction
  [⟨device.mLogicalAddress, logicalAddress, 2, body, two_fits⟩,
    ⟨device.mLogicalAddress, logicalAddress, 1, body.set 0 cecMessageUserControlReleased, one_fits⟩]

-- sendMessage(mLogicalAddress, DEV_TYPE_TV, 1, type)
def askTv (device : CecDevice) (stack : Body) (type : UInt8) : List CecMessage :=
  [⟨device.mLogicalAddress, devTypeTv, 1, stack.set 0 type, one_fits⟩]

-- The messages given to send, in order.
def handleMessage (device : CecDevice) (stack : Body) (msg : CMessage) : CecDevice × List CecMessage :=
  if msg.mType = msgFilterOtpTimeout then ({ device with mFilterOtpEnabled := false }, [])
  else if msg.mType = msgWaitEdidupdateFinishedTimeout then ({ device with mWaitEdidUpdatedFinished := true }, [])
  else if msg.mType = msgGivePhysicalAddress then
    (device, if device.isTvDeviceType then
      [⟨devTypeTv, (para msg 0).toNat, 1, stack.set 0 cecMessageGivePhysicalAddress, one_fits⟩] else [])
  else if msg.mType = msgTurnOnDevice then (device, turnOnDevice device stack (para msg 0).toNat)
  else if msg.mType = msgSetStreamPath then
    (device, if device.isTvDeviceType then
      [⟨devTypeTv, addrBroadcast, 3, ((stack.set 0 cecMessageSetStreamPath).set 1 (para msg 0)).set 2 (para msg 1), three_fits⟩]
      else [])
  else if msg.mType = msgUserControlPressed then
    (device, if device.isTvDeviceType then
      [⟨(para msg 0).toNat, (para msg 1).toNat, 2, (stack.set 0 cecMessageUserControlPressed).set 1 (para msg 2), two_fits⟩]
      else [])
  else if msg.mType = getMenuLanguage then (device, askTv device stack cecMessageGetMenuLanguage)
  else if msg.mType = giveOsdName then (device, askTv device stack cecMessageGiveOsdName)
  else if msg.mType = msgGiveDeviceVendorId then (device, askTv device stack cecMessageGiveDeviceVendorId)
  else (device, [])

def initiator (frame : Frame) : Nat := (frame.msgBuf.at 0 >>> 4 &&& 0xf).toNat

def destination (frame : Frame) : Nat := (frame.msgBuf.at 0 &&& 0xf).toNat

-- What a television does about a frame.
inductive Reaction
  | givePhysicalAddress (address : Nat)
  | powerOn (address : Nat)
  | setStreamPath (high low : UInt8)
deriving DecidableEq

def Reaction.queued : Reaction → CMessage
  | givePhysicalAddress address => delayed msgGivePhysicalAddress (delayTimeoutMs / 14) [.ofNat address]
  | powerOn address => delayed msgTurnOnDevice (delayTimeoutMs / 7) [.ofNat address]
  | setStreamPath high low => delayed msgSetStreamPath 10 [high, low]

-- The bytes on the bus, header first.
def Reaction.frames (logicalAddress : Nat) : Reaction → List Bytes
  | givePhysicalAddress address => [[.ofNat address, 0x83]]
  | powerOn address =>
      let header := .ofNat ((logicalAddress &&& 0xf) <<< 4 ||| address)
      [[header, 0x44, 0x6D], [header, 0x45]]
  | setStreamPath high low => [[0x0F, 0x86, high, low]]

def reactions (device : CecDevice) (frame : Frame) : List Reaction :=
  let operand := frame.msgBuf.at 2
  if frame.bytes.length ≤ 1 then []
  else if frame.msgBuf.at 1 = cecMessageReportPhysicalAddress then
    if operand = 0 then [.givePhysicalAddress (initiator frame)] else []
  else if frame.msgBuf.at 1 = cecMessageReportPowerStatus then
    if initiator frame = device.mActiveLogicalAddr ∧ operand ∈ [powerStatusStandby, powerStatusTransientToStandby] then
      [.powerOn (initiator frame)]
    else []
  else if frame.msgBuf.at 1 = cecMessageRoutingInformation then
    if destination frame = addrBroadcast ∧ operand &&& 0x0f ≠ 0 then [.setStreamPath operand (frame.msgBuf.at 3)] else []
  else []

def queued (calls : List QueueCall) : List CMessage :=
  calls.filterMap fun call =>
    match call with
    | .sendMsg msg => some msg
    | .removeMsg _ => none

-- The operands that a television looks at.
def operandsRead (opcode : UInt8) : Nat :=
  if opcode = cecMessageReportPhysicalAddress ∨ opcode = cecMessageRoutingInformation then 2
  else if opcode = cecMessageReportPowerStatus then 1
  else 0

def Complete (frame : Frame) : Prop :=
  1 < frame.bytes.length → 2 + operandsRead (frame.msgBuf.at 1) ≤ frame.bytes.length

instance (frame : Frame) : Decidable (Complete frame) := inferInstanceAs (Decidable (_ → _))

-- The messages queued are the reactions, and each of them leaves its frames on the bus.
def ReactsAs (services : Services) (device : CecDevice) (event : HdmiCecEvent) (frame : Frame) : Prop :=
  ∃ pass, receive services device event frame = some pass ∧
    queued pass.calls = (reactions device frame).map Reaction.queued ∧
      ∀ reaction ∈ reactions device frame, ∀ (later : CecDevice) (stack : Body), later.isTvDeviceType = true →
        (handleMessage later stack reaction.queued).2.map send = (reaction.frames later.mLogicalAddress).map some

-- No standby of the active device, and no address of a device that has none.
def Answered (device : CecDevice) (frame : Frame) : Prop :=
  1 < frame.bytes.length →
    if frame.msgBuf.at 1 = cecMessageReportPowerStatus then
      initiator frame = device.mActiveLogicalAddr →
        frame.msgBuf.at 2 ∉ [powerStatusStandby, powerStatusTransientToStandby]
    else if frame.msgBuf.at 1 = cecMessageReportPhysicalAddress then
      frame.msgBuf.at 2 ≠ 0 → initiator frame < addrBroadcast
    else True

instance (device : CecDevice) (frame : Frame) : Decidable (Answered device frame) := inferInstanceAs (Decidable (_ → _))

theorem initiator_small (frame : Frame) : initiator frame < 16 := by
  rw [initiator, UInt8.toNat_and]
  exact Nat.lt_of_le_of_lt Nat.and_le_right (by decide)

theorem byte_of_nat (address : Nat) (small : address < 16) : (UInt8.ofNat address).toNat = address := by
  rw [UInt8.toNat_ofNat']
  omega

theorem low_nibble (address : Nat) (small : address < 16) : address &&& 0xf = address := by
  rw [show 0xf = 2 ^ 4 - 1 from rfl, Nat.and_two_pow_sub_one_eq_mod]
  exact Nat.mod_eq_of_lt small

-- The first bytes of a body, written one by one.
theorem body_split (body : Body) : ∃ first second third rest, body.bytes = first :: second :: third :: rest := by
  match sized : body.bytes with
  | first :: second :: third :: rest => exact ⟨first, second, third, rest, rfl⟩
  | [] => exact absurd (sized ▸ body.sized) (by decide)
  | [_] => exact absurd (sized ▸ body.sized) (by simp [cecMessageBodyMaxLength])
  | [_, _] => exact absurd (sized ▸ body.sized) (by simp [cecMessageBodyMaxLength])

theorem header_to (sender address : Nat) (small : address < 16) (length : Nat) (body : Body)
    (fits : length ≤ cecMessageBodyMaxLength) :
    header ⟨sender, (UInt8.ofNat address).toNat, length, body, fits⟩ = .ofNat ((sender &&& 0xf) <<< 4 ||| address) := by
  rw [header, byte_of_nat address small, low_nibble address small]

theorem reaction_frames (reaction : Reaction) (later : CecDevice) (stack : Body) (tv : later.isTvDeviceType = true)
    (known : ∀ address, reaction = .givePhysicalAddress address ∨ reaction = .powerOn address → address < 16) :
    (handleMessage later stack reaction.queued).2.map send = (reaction.frames later.mLogicalAddress).map some := by
  obtain ⟨first, second, third, rest, bytes⟩ := body_split stack
  cases reaction with
  | givePhysicalAddress address =>
      have small := known address (.inl rfl)
      have handled : (handleMessage later stack (Reaction.givePhysicalAddress address).queued).2 =
          [⟨devTypeTv, (UInt8.ofNat address).toNat, 1, stack.set 0 cecMessageGivePhysicalAddress, one_fits⟩] := if_pos tv
      rw [handled, List.map_singleton, send_short _ (show 1 ≤ 15 by decide), header_to _ address small, CecMessage.payload]
      simp [Body.set, bytes, Reaction.frames, devTypeTv, cecMessageGivePhysicalAddress]
  | powerOn address =>
      have small := known address (.inr rfl)
      have handled : (handleMessage later stack (Reaction.powerOn address).queued).2 =
          turnOnDevice later stack (UInt8.ofNat address).toNat := rfl
      rw [handled, turnOnDevice, List.map_cons, List.map_singleton, send_short _ (show 2 ≤ 15 by decide),
        send_short _ (show 1 ≤ 15 by decide), header_to _ address small, header_to _ address small, CecMessage.payload,
        CecMessage.payload]
      simp [Body.set, bytes, Reaction.frames, cecMessageUserControlPressed, cecKeycodePowerOnFunction,
        cecMessageUserControlReleased]
  | setStreamPath high low =>
      have handled : (handleMessage later stack (Reaction.setStreamPath high low).queued).2 =
          [⟨devTypeTv, addrBroadcast, 3, ((stack.set 0 cecMessageSetStreamPath).set 1 high).set 2 low, three_fits⟩] := if_pos tv
      rw [handled, List.map_singleton, send_short _ (show 3 ≤ 15 by decide), CecMessage.payload]
      simp [Body.set, bytes, Reaction.frames, header, devTypeTv, addrBroadcast, cecMessageSetStreamPath]

theorem reactions_known (device : CecDevice) (frame : Frame) (reaction : Reaction) (listed : reaction ∈ reactions device frame)
    (address : Nat) (addressed : reaction = .givePhysicalAddress address ∨ reaction = .powerOn address) : address < 16 := by
  have small := initiator_small frame
  simp only [reactions] at listed
  split at listed
  · cases listed
  · split at listed
    · split at listed
      · rcases addressed with rfl | rfl <;> simp_all
      · cases listed
    · split at listed
      · split at listed
        · rcases addressed with rfl | rfl <;> simp_all
        · cases listed
      · split at listed
        · split at listed
          · rcases addressed with rfl | rfl <;> simp_all
          · cases listed
        · cases listed

-- The frames follow from the messages; what is left is that these are queued.
theorem reacts_as_iff (services : Services) (device : CecDevice) (event : HdmiCecEvent) (frame : Frame) :
    ReactsAs services device event frame ↔
      (receive services device event frame).map (fun pass => queued pass.calls) =
        some ((reactions device frame).map Reaction.queued) := by
  rw [Option.map_eq_some_iff]
  refine exists_congr fun pass => and_congr_right fun _ => and_iff_left fun reaction listed later stack tv => ?_
  exact reaction_frames reaction later stack tv (reactions_known device frame reaction listed)

theorem receive_queued (services : Services) (device : CecDevice) (event : HdmiCecEvent) (frame : Frame)
    (some_opcode : 1 < frame.bytes.length) :
    (receive services device event frame).map (fun pass => queued pass.calls) =
      (messageValidateAndHandle services device (build device event frame)).map fun handled => queued handled.calls := by
  rw [receive, if_neg (Nat.not_le_of_lt some_opcode), Option.map_map]
  rfl

section
variable (services : Services) (device : CecDevice) (built : HdmiCecEvent)

theorem handled_physical_address (tv : device.isTvDeviceType = true)
    (opcode : built.cec.body.at 0 = cecMessageReportPhysicalAddress) :
    (messageValidateAndHandle services device built).map (fun handled => queued handled.calls) =
      if built.cec.body.at 1 = 0 then
        some [delayed msgGivePhysicalAddress (delayTimeoutMs / 14) [.ofNat built.cec.initiator]]
      else if built.cec.initiator < addrBroadcast then some [] else none := by
  rw [messageValidateAndHandle, if_pos tv]
  simp only [opcode, if_true]
  split
  · rfl
  · split <;> rfl

-- The power status is compared with the opcode, so nothing is queued.
theorem handled_power_status (tv : device.isTvDeviceType = true)
    (opcode : built.cec.body.at 0 = cecMessageReportPowerStatus) :
    (messageValidateAndHandle services device built).map (fun handled => queued handled.calls) = some [] := by
  have missed : ¬(built.cec.initiator = device.mActiveLogicalAddr ∧
      cecMessageReportPowerStatus ∈ [powerStatusStandby, powerStatusTransientToStandby]) := fun both => absurd both.2 (by decide)
  have other : cecMessageReportPowerStatus ≠ cecMessageReportPhysicalAddress := by decide
  rw [messageValidateAndHandle, if_pos tv]
  simp only [opcode, if_true, if_neg other, if_neg missed]
  rfl

theorem handled_routing_information (tv : device.isTvDeviceType = true)
    (opcode : built.cec.body.at 0 = cecMessageRoutingInformation) :
    (messageValidateAndHandle services device built).map (fun handled => queued handled.calls) =
      some (if built.cec.destination = addrBroadcast ∧ built.cec.body.at 1 &&& 0x0f ≠ 0 then
        [delayed msgSetStreamPath 10 [built.cec.body.at 1, built.cec.body.at 2]] else []) := by
  have first : cecMessageRoutingInformation ≠ cecMessageReportPhysicalAddress := by decide
  have second : cecMessageRoutingInformation ≠ cecMessageReportPowerStatus := by decide
  rw [messageValidateAndHandle, if_pos tv]
  simp only [opcode, if_true, if_neg first, if_neg second]
  split <;> rfl

theorem handled_other (tv : device.isTvDeviceType = true) (first : built.cec.body.at 0 ≠ cecMessageReportPhysicalAddress)
    (second : built.cec.body.at 0 ≠ cecMessageReportPowerStatus)
    (third : built.cec.body.at 0 ≠ cecMessageRoutingInformation) :
    (messageValidateAndHandle services device built).map (fun handled => queued handled.calls) = some [] := by
  rw [messageValidateAndHandle, if_pos tv]
  simp only [if_neg first, if_neg second, if_neg third]
  rfl

end

-- An opcode of the three reaches the handlers, with its operands; another one does not turn into one of them.
theorem build_other (device : CecDevice) (event : HdmiCecEvent) (frame : Frame) (some_opcode : 1 < frame.bytes.length)
    (opcode : UInt8) (apart : opcode ∉ [cecMessageRoutingChange, cecMessageSetStreamPath, 0])
    (other : frame.msgBuf.at 1 ≠ opcode) : (build device event frame).cec.body.at 0 ≠ opcode := by
  by_cases routing : frame.msgBuf.at 1 = cecMessageRoutingChange
  · exact fun same => apart (same ▸ build_routing device event frame some_opcode routing)
  · rw [build_at device event frame 0 some_opcode routing]
    exact other

theorem react_iff (services : Services) (device : CecDevice) (event : HdmiCecEvent) (frame : Frame)
    (tv : device.isTvDeviceType = true) (complete : Complete frame) :
    ReactsAs services device event frame ↔ Answered device frame := by
  rw [reacts_as_iff]
  by_cases some_opcode : 1 < frame.bytes.length
  · obtain ⟨from_header, to_header, _⟩ := build_header device event frame
    have long := complete some_opcode
    rw [receive_queued services device event frame some_opcode, Answered]
    simp only [some_opcode, forall_const, reactions, if_neg (Nat.not_le_of_lt some_opcode)]
    by_cases report : frame.msgBuf.at 1 = cecMessageReportPhysicalAddress
    · have plain : frame.msgBuf.at 1 ≠ cecMessageRoutingChange := by rw [report]; decide
      have status : ¬cecMessageReportPhysicalAddress = cecMessageReportPowerStatus := by decide
      rw [report, operandsRead, if_pos (.inl rfl)] at long
      have opcode := (build_at device event frame 0 some_opcode plain).trans report
      have operand := build_at device event frame 1 (by omega) plain
      rw [handled_physical_address services device _ tv opcode, operand, from_header]
      simp only [report, if_true, if_neg status]
      by_cases zero : frame.msgBuf.at 2 = 0
      · simp [zero, Reaction.queued, initiator]
      · simp [zero, initiator]
    · by_cases status : frame.msgBuf.at 1 = cecMessageReportPowerStatus
      · have plain : frame.msgBuf.at 1 ≠ cecMessageRoutingChange := by rw [status]; decide
        have opcode := (build_at device event frame 0 some_opcode plain).trans status
        rw [handled_power_status services device _ tv opcode]
        simp only [if_neg report, if_pos status]
        by_cases standby : initiator frame = device.mActiveLogicalAddr ∧
            frame.msgBuf.at 2 ∈ [powerStatusStandby, powerStatusTransientToStandby]
        · rw [if_pos standby]
          exact iff_of_false (fun same => by cases same) fun never => never standby.1 standby.2
        · rw [if_neg standby]
          exact iff_of_true rfl fun active waiting => standby ⟨active, waiting⟩
      · simp only [if_neg report, if_neg status, iff_true]
        by_cases routing : frame.msgBuf.at 1 = cecMessageRoutingInformation
        · have plain : frame.msgBuf.at 1 ≠ cecMessageRoutingChange := by rw [routing]; decide
          rw [routing, operandsRead, if_pos (.inr rfl)] at long
          have opcode := (build_at device event frame 0 some_opcode plain).trans routing
          have high := build_at device event frame 1 (by omega) plain
          have low := build_at device event frame 2 (by omega) plain
          rw [handled_routing_information services device _ tv opcode, high, low, to_header, if_pos routing, destination]
          split <;> rfl
        · rw [if_neg routing]
          exact handled_other services device _ tv
            (build_other device event frame some_opcode _ (by decide) report)
            (build_other device event frame some_opcode _ (by decide) status)
            (build_other device event frame some_opcode _ (by decide) routing)
  · have short : frame.bytes.length ≤ 1 := Nat.le_of_not_lt some_opcode
    rw [receive, if_pos short, Option.map_some, reactions, Answered]
    simp [some_opcode, short, queued]

def television : CecDevice :=
  { openCecDevice (initDevice [devTypeTv]) 3 with isCecControlled := true, mActiveLogicalAddr := 4 }

-- A switch below the active port tells its path.
def routingInformation : Frame := ⟨[0x5F, 0x81, 0x12, 0x00], by decide⟩

theorem routing_information_answered : ReactsAs plainServices television .blank routingInformation :=
  (react_iff plainServices television .blank routingInformation rfl (by decide)).mpr (by decide)

-- The active device goes to standby.
def standbyReport : Frame := ⟨[0x40, 0x90, 0x01], by decide⟩

theorem standby_report_unanswered : ¬ReactsAs plainServices television .blank standbyReport := by
  rw [reacts_as_iff]
  intro same
  have lengths := congrArg (Option.map List.length) same
  exact absurd lengths (by decide)

end Droidlogic.Cec.Reactions
