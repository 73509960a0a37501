import Droidlogic.Cec.Receive

set_option autoImplicit false

namespace Droidlogic.Cec.WakeUp

open Lib

def opcode (frame : Frame) : UInt8 := frame.msgBuf.at 1

-- The buffer after isWakeUpMsg and its answer.
def scanned (device : CecDevice) (frame : Frame) : Body × Bool :=
  isWakeUpMsg frame.bytes.length device.mDeviceTypes frame.msgBuf

-- The messages that wake a device of a type; a key that wakes is an operand of the frame.
def WakesType (deviceType : Nat) (frame : Frame) : Prop :=
  if deviceType = devTypePlayback then
    opcode frame ∈ [cecMessageSetStreamPath, cecMessageDeckControl, cecMessagePlay, cecMessageActiveSource,
        cecMessageRoutingChange] ∨
      (opcode frame = cecMessageUserControlPressed ∧
        ∃ key ∈ [cecKeycodePower, cecKeycodeRootMenu, cecKeycodePowerOnFunction], frame.bytes[2]? = some key)
  else if deviceType = devTypeTv then
    opcode frame ∈ [cecMessageImageViewOn, cecMessageTextViewOn, cecMessageActiveSource]
  else if deviceType = devTypeAudioSystem then
    opcode frame ∈ [cecMessageSystemAudioModeRequest, cecMessageUserControlPressed]
  else False

def Wakes (device : CecDevice) (frame : Frame) : Prop := ∃ deviceType ∈ device.mDeviceTypes, WakesType deviceType frame

-- <Routing Change> on a playback device.
def Rerouted (device : CecDevice) (frame : Frame) : Prop :=
  devTypePlayback ∈ device.mDeviceTypes ∧ opcode frame = cecMessageRoutingChange

-- Header, opcode, old address and new address.
def routingChangeLength : Nat := 6

-- The one-touch-play filter takes the message out of the event.
def Withheld (device : CecDevice) (event : HdmiCecEvent) : Prop :=
  device.isTvDeviceType = true ∧ event.cec.body.at 0 = cecMessageActiveSource ∧ device.mFilterOtpEnabled = true ∧
    device.mSelectedDeviceId ≠ portOf device.mpPortData (devPhyAddr event) + otpOffset

instance (device : CecDevice) (event : HdmiCecEvent) : Decidable (Withheld device event) :=
  inferInstanceAs (Decidable (_ ∧ _))

structure Translated (services : Services) (device : CecDevice) (event : HdmiCecEvent) (frame : Frame) : Prop where
  produced : (build device event frame).eventType = hdmiEventCecMessage ↔ Wakes device frame
  header : (scanned device frame).1.at 0 = frame.msgBuf.at 0
  unchanged : Wakes device frame → ¬Rerouted device frame → (build device event frame).cec.payload = frame.bytes.tail
  rerouted : Rerouted device frame →
    if frame.bytes.length = routingChangeLength then
      (build device event frame).cec.payload = [cecMessageSetStreamPath, frame.msgBuf.at 4, frame.msgBuf.at 5]
    else if frame.bytes.length < routingChangeLength then
      (build device event frame).cec.body.at 0 ∈ [cecMessageRoutingChange, cecMessageSetStreamPath]
    else (build device event frame).cec.payload = frame.bytes.tail
  listener : ∀ pass, receive services device event frame = some pass → pass.onEventUpdate =
    if (build device event frame).eventType = hdmiEventCecMessage ∧ ¬Withheld device (build device event frame) then
      some (build device event frame) else none

theorem msg_buf_at (frame : Frame) (i : Nat) : frame.msgBuf.at i = frame.bytes.getD i 0 := by
  rw [Body.at, Frame.msgBuf, Body.fill, List.getD_eq_getElem?_getD, List.getD_eq_getElem?_getD, List.getElem?_append]
  split
  · rfl
  · rename_i behind
    rw [Body.zero, List.drop_replicate, List.getElem?_replicate, List.getElem?_eq_none (Nat.le_of_not_lt behind)]
    split <;> rfl

theorem wakes_type_iff (deviceType : Nat) (frame : Frame) (plain : opcode frame ≠ cecMessageRoutingChange) :
    (wakeUpBy deviceType frame.msgBuf frame.bytes.length).2 = true ↔ WakesType deviceType frame := by
  have key : frame.msgBuf.at 2 ∈ [cecKeycodePower, cecKeycodeRootMenu, cecKeycodePowerOnFunction] ↔
      ∃ key ∈ [cecKeycodePower, cecKeycodeRootMenu, cecKeycodePowerOnFunction], frame.bytes[2]? = some key := by
    rw [msg_buf_at, List.getD_eq_getElem?_getD]
    cases frame.bytes[2]? with
    | none => exact iff_of_false (by decide) fun ⟨_, _, never⟩ => by cases never
    | some operand => exact ⟨fun hit => ⟨operand, hit, rfl⟩, fun ⟨_, hit, same⟩ => Option.some.inj same ▸ hit⟩
  rw [opcode] at plain
  simp only [wakeUpBy, WakesType, opcode]
  by_cases playback : deviceType = devTypePlayback
  · simp only [if_pos playback, if_neg plain]
    by_cases listed : frame.msgBuf.at 1 ∈ [cecMessageSetStreamPath, cecMessageDeckControl, cecMessagePlay, cecMessageActiveSource]
    · rw [if_pos listed]
      exact iff_of_true rfl (.inl (List.mem_append_left [cecMessageRoutingChange] listed))
    · have absent : frame.msgBuf.at 1 ∉ [cecMessageSetStreamPath, cecMessageDeckControl, cecMessagePlay,
          cecMessageActiveSource, cecMessageRoutingChange] := by
        intro inside
        rcases List.mem_append.mp (show _ ∈ [cecMessageSetStreamPath, cecMessageDeckControl, cecMessagePlay,
          cecMessageActiveSource] ++ [cecMessageRoutingChange] from inside) with front | last
        · exact listed front
        · exact plain (List.mem_singleton.mp last)
      rw [if_neg listed]
      by_cases pressed : frame.msgBuf.at 1 = cecMessageUserControlPressed
      · rw [if_pos pressed]
        simp only [decide_eq_true_eq, key, pressed, true_and]
        exact ⟨.inr, fun either => either.resolve_left (by decide)⟩
      · rw [if_neg pressed]
        exact iff_of_false Bool.false_ne_true (not_or.mpr ⟨absent, fun both => pressed both.1⟩)
  · simp only [if_neg playback]
    by_cases tv : deviceType = devTypeTv
    · simp only [if_pos tv, decide_eq_true_eq]
    · simp only [if_neg tv]
      by_cases audio : deviceType = devTypeAudioSystem
      · simp only [if_pos audio, decide_eq_true_eq]
      · simp only [if_neg audio, Bool.false_eq_true]

theorem wakes_routing (device : CecDevice) (frame : Frame) (routing : opcode frame = cecMessageRoutingChange) :
    Wakes device frame ↔ devTypePlayback ∈ device.mDeviceTypes := by
  constructor
  · rintro ⟨deviceType, listed, wakes⟩
    simp only [WakesType, routing] at wakes
    split at wakes
    · rename_i playback
      exact playback ▸ listed
    · split at wakes
      · exact absurd wakes (by decide)
      · split at wakes
        · exact absurd wakes (by decide)
        · exact wakes.elim
  · intro playback
    refine ⟨devTypePlayback, playback, ?_⟩
    rw [WakesType, if_pos rfl, routing]
    exact .inl (by decide)

theorem scan_wakes (device : CecDevice) (frame : Frame) : (scanned device frame).2 = true ↔ Wakes device frame := by
  by_cases routing : opcode frame = cecMessageRoutingChange
  · rw [wakes_routing device frame routing]
    by_cases playback : devTypePlayback ∈ device.mDeviceTypes
    · rw [scanned, wake_rewrites _ _ _ playback routing]
      exact iff_of_true (wake_by_rewrites _ _ routing).1 playback
    · rw [scanned, wake_same _ _ _ (.inl playback), List.any_eq_true]
      refine iff_of_false (fun ⟨deviceType, listed, hit⟩ => ?_) playback
      have other : deviceType ≠ devTypePlayback := fun same => playback (same ▸ listed)
      rw [opcode] at routing
      simp only [wakeUpBy, if_neg other, routing] at hit
      split at hit
      · have listed : cecMessageRoutingChange ∈ [cecMessageImageViewOn, cecMessageTextViewOn, cecMessageActiveSource] :=
          of_decide_eq_true hit
        exact absurd listed (by decide)
      · split at hit
        · have listed : cecMessageRoutingChange ∈ [cecMessageSystemAudioModeRequest, cecMessageUserControlPressed] :=
            of_decide_eq_true hit
          exact absurd listed (by decide)
        · cases hit
  · rw [scanned, wake_same _ _ _ (.inr routing), List.any_eq_true, Wakes]
    exact exists_congr fun deviceType => and_congr_right fun _ => wakes_type_iff deviceType frame routing

section
variable (device : CecDevice) (event : HdmiCecEvent) (frame : Frame)

theorem build_asleep (free : device.isCecControlled = false) (asleep : (scanned device frame).2 = false) :
    (build device event frame).eventType = 0 := by
  rw [scanned] at asleep
  rw [build, control]
  simp only [free, asleep, Bool.false_eq_true, if_false]
  rfl

theorem build_awake (free : device.isCecControlled = false) (awake : (scanned device frame).2 = true) :
    (build device event frame).eventType = hdmiEventCecMessage ∧
      (build device event frame).cec.payload = operands (scanned device frame).1 frame.bytes.length ∧
        (1 < frame.bytes.length → (build device event frame).cec.body.at 0 = (scanned device frame).1.at 1) := by
  rw [scanned] at awake ⊢
  rw [build, control]
  simp only [free, awake, Bool.false_eq_true, if_false, if_true]
  refine ⟨BitVec.zero_or, payload_fill _ _ _ _ _ _ _ (operands_length _ _ frame.fits), fun long => ?_⟩
  exact fill_operands_at _ _ _ 0 long frame.fits

theorem build_type (free : device.isCecControlled = false) :
    (build device event frame).eventType = hdmiEventCecMessage ↔ Wakes device frame := by
  rw [← scan_wakes]
  cases woken : (scanned device frame).2 with
  | false =>
      rw [build_asleep device event frame free woken]
      decide
  | true => exact iff_of_true (build_awake device event frame free woken).1 rfl

end

def wakeUpOpcodes : List UInt8 :=
  [cecMessageSetStreamPath, cecMessageDeckControl, cecMessagePlay, cecMessageActiveSource, cecMessageRoutingChange,
    cecMessageUserControlPressed, cecMessageImageViewOn, cecMessageTextViewOn, cecMessageSystemAudioModeRequest, 0]

-- A message that wakes is one that the handlers for received messages pass on.
theorem handled_awake (services : Services) (device : CecDevice) (event : HdmiCecEvent)
    (wakes : event.cec.body.at 0 ∈ wakeUpOpcodes) :
    messageValidateAndHandle services device event = some ⟨device, event, []⟩ ∧
      supportForEARC services event = event := by
  have apart (other : UInt8) (elsewhere : other ∉ wakeUpOpcodes) : event.cec.body.at 0 ≠ other :=
    fun same => elsewhere (same ▸ wakes)
  have arc : event.cec.body.at 0 ∉ arcMessages := by
    intro inside
    have disjoint : ∀ other ∈ arcMessages, other ∉ wakeUpOpcodes := by decide +kernel
    exact disjoint _ inside wakes
  constructor
  · rw [messageValidateAndHandle]
    simp only [if_neg (apart cecMessageReportPhysicalAddress (by decide)), if_neg (apart cecMessageReportPowerStatus (by decide)),
      if_neg (apart cecMessageRoutingInformation (by decide)), if_neg (apart cecMessageSetOsdName (by decide)),
      if_neg (apart cecMessageDeviceVendorId (by decide)), if_neg (apart cecMessageSetMenuLanguage (by decide)), ite_self]
  · rw [supportForEARC, if_neg fun both => arc both.1]

theorem drop_asleep (event : HdmiCecEvent) (asleep : event.eventType = 0) : event.drop.eventType = 0 := by
  rw [HdmiCecEvent.drop, asleep]
  exact BitVec.zero_and

theorem handled_asleep (services : Services) (device : CecDevice) (event : HdmiCecEvent) (handled : Handled)
    (asleep : event.eventType = 0) (done : messageValidateAndHandle services device event = some handled) :
    handled.event.eventType = 0 := by
  have dropped := drop_asleep event asleep
  have language : (handleSetMenuLanguage services device event).eventType = 0 := by
    rw [handleSetMenuLanguage]
    split
    · rw [compatLangIfneeded]
      split <;> exact asleep
    · exact dropped
  simp only [messageValidateAndHandle] at done
  split_ifs at done
  all_goals cases done
  all_goals first | exact asleep | exact dropped | exact language

-- Nothing is told to the listener about a frame that wakes no device.
theorem listener_asleep (services : Services) (device : CecDevice) (event : HdmiCecEvent) (frame : Frame) (pass : Pass)
    (asleep : (build device event frame).eventType = 0) (done : receive services device event frame = some pass) :
    pass.onEventUpdate = none := by
  rw [receive] at done
  split at done
  · cases done
    rfl
  · obtain ⟨handled, validated, rfl⟩ := Option.map_eq_some_iff.mp done
    have still := handled_asleep services device _ handled asleep validated
    have filtered : (handleOTPMsg handled.device handled.event).2.eventType = 0 := by
      rw [handleOTPMsg]
      split
      · split
        · exact drop_asleep _ still
        · exact still
      · exact still
    have shown : (supportForEARC services (handleOTPMsg handled.device handled.event).2).eventType = 0 := by
      rw [supportForEARC]
      split
      · exact drop_asleep _ filtered
      · exact filtered
    exact if_pos shown

-- The one-touch-play filter alone stands between a message that wakes and the listener.
theorem filter_awake (device : CecDevice) (event : HdmiCecEvent) :
    (handleOTPMsg device event).2 = if Withheld device event then event.drop else event := by
  rw [handleOTPMsg]
  by_cases source : device.isTvDeviceType ∧ event.cec.body.at 0 = cecMessageActiveSource
  · rw [if_pos source]
    by_cases filtered : device.mFilterOtpEnabled ∧
        device.mSelectedDeviceId ≠ portOf device.mpPortData (devPhyAddr event) + otpOffset
    · rw [if_pos filtered, if_pos ⟨source.1, source.2, filtered⟩]
    · rw [if_neg filtered, if_neg fun withheld => filtered withheld.2.2]
  · rw [if_neg source, if_neg fun withheld => source ⟨withheld.1, withheld.2.1⟩]

theorem listener_awake (services : Services) (device : CecDevice) (event : HdmiCecEvent) (frame : Frame) (pass : Pass)
    (long : 1 < frame.bytes.length) (awake : (build device event frame).eventType = hdmiEventCecMessage)
    (wakes : (build device event frame).cec.body.at 0 ∈ wakeUpOpcodes)
    (done : receive services device event frame = some pass) :
    pass.onEventUpdate =
      if Withheld device (build device event frame) then none else some (build device event frame) := by
  rw [receive, if_neg (Nat.not_le_of_lt long), (handled_awake services device _ wakes).1, Option.map_some] at done
  rw [← Option.some.inj done]
  simp only [filter_awake]
  by_cases withheld : Withheld device (build device event frame)
  · rw [if_pos withheld, if_pos withheld, (handled_awake services device (build device event frame).drop wakes).2]
    have none_left : hdmiEventCecMessage &&& ~~~hdmiEventCecMessage = 0 := by decide
    refine if_pos ?_
    rw [HdmiCecEvent.drop, awake, none_left]
  · rw [if_neg withheld, if_neg withheld, (handled_awake services device _ wakes).2]
    refine if_neg ?_
    rw [awake]
    decide

theorem wakes_opcode (device : CecDevice) (frame : Frame) (wakes : Wakes device frame) : opcode frame ∈ wakeUpOpcodes := by
  obtain ⟨deviceType, _, wakes⟩ := wakes
  have within (some_opcodes : List UInt8) (all : ∀ listed ∈ some_opcodes, listed ∈ wakeUpOpcodes)
      (listed : opcode frame ∈ some_opcodes) : opcode frame ∈ wakeUpOpcodes := all _ listed
  rw [WakesType] at wakes
  split at wakes
  · rcases wakes with listed | pressed
    · exact within _ (by decide +kernel) listed
    · rw [pressed.1]
      decide
  · split at wakes
    · exact within _ (by decide +kernel) wakes
    · split at wakes
      · exact within _ (by decide +kernel) wakes
      · exact wakes.elim

theorem scanned_same (device : CecDevice) (frame : Frame) (plain : ¬Rerouted device frame) :
    (scanned device frame).1 = frame.msgBuf :=
  congrArg Prod.fst (wake_same _ _ _ (not_and_or.mp plain))

-- The two bytes that are zeroed last are the header and the opcode where the frame is short.
theorem scanned_front (device : CecDevice) (frame : Frame) (rerouted : Rerouted device frame)
    (long : 1 < frame.bytes.length) :
    ((scanned device frame).1.at 1 = if frame.bytes.length < 4 then 0 else cecMessageSetStreamPath) ∧
      (4 ≤ frame.bytes.length → (scanned device frame).1.at 0 = frame.msgBuf.at 0) := by
  have listed : cecMessageRoutingChange ∉
      [cecMessageSetStreamPath, cecMessageDeckControl, cecMessagePlay, cecMessageActiveSource] := by decide
  have second : 1 < cecMessageBodyMaxLength := by decide
  have first : 0 < cecMessageBodyMaxLength := by decide
  have routing : frame.msgBuf.at 1 = cecMessageRoutingChange := rerouted.2
  rw [scanned, wake_rewrites _ _ _ rerouted.1 routing, wakeUpBy]
  simp only [if_true, routing, if_neg listed]
  constructor
  · simp only [at_set _ _ _ _ second]
    split_ifs <;> first | rfl | omega
  · intro whole
    have last : frame.bytes.length - 1 ≠ 0 := by omega
    have before : frame.bytes.length - 2 ≠ 0 := by omega
    simp only [at_set _ _ _ _ first, if_neg last, if_neg before]
    rfl

theorem translated_plain (services : Services) (device : CecDevice) (event : HdmiCecEvent) (frame : Frame)
    (free : device.isCecControlled = false) (long : 1 < frame.bytes.length)
    (header : (scanned device frame).1.at 0 = frame.msgBuf.at 0)
    (known : (scanned device frame).1.at 1 ∈ wakeUpOpcodes ∨ ¬Wakes device frame)
    (rerouted : Rerouted device frame →
      if frame.bytes.length = routingChangeLength then
        (build device event frame).cec.payload = [cecMessageSetStreamPath, frame.msgBuf.at 4, frame.msgBuf.at 5]
      else if frame.bytes.length < routingChangeLength then
        (build device event frame).cec.body.at 0 ∈ [cecMessageRoutingChange, cecMessageSetStreamPath]
      else (build device event frame).cec.payload = frame.bytes.tail) :
    Translated services device event frame where
  produced := build_type device event frame free
  header := header
  unchanged := fun wakes plain => by
    have awake := (scan_wakes device frame).mpr wakes
    obtain ⟨head, body, bytes⟩ := List.exists_cons_of_length_pos (Nat.lt_trans Nat.zero_lt_one long)
    rw [(build_awake device event frame free awake).2.1, scanned_same device frame plain, operands_whole frame head body bytes,
      bytes, List.tail_cons]
  rerouted := rerouted
  listener := fun pass done => by
    by_cases wakes : Wakes device frame
    · have awake := (scan_wakes device frame).mpr wakes
      obtain ⟨type, _, first⟩ := build_awake device event frame free awake
      have passed := known.resolve_right (not_not_intro wakes)
      rw [← first long] at passed
      rw [listener_awake services device event frame pass long type passed done]
      by_cases withheld : Withheld device (build device event frame)
      · rw [if_pos withheld, if_neg fun both => both.2 withheld]
      · rw [if_neg withheld, if_pos ⟨type, withheld⟩]
    · have silent := fun type => wakes ((build_type device event frame free).mp type)
      have asleep := build_asleep device event frame free
        (Bool.eq_false_iff.mpr fun awake => wakes ((scan_wakes device frame).mp awake))
      rw [listener_asleep services device event frame pass asleep done, if_neg fun both => silent both.1]

-- A frame that is not rewritten, or one of two or three bytes behind the header that is.
def Kept (device : CecDevice) (frame : Frame) : Prop :=
  Rerouted device frame → frame.bytes.length = 4 ∨ frame.bytes.length = 5

theorem translated_iff (services : Services) (device : CecDevice) (event : HdmiCecEvent) (frame : Frame)
    (free : device.isCecControlled = false) (long : 1 < frame.bytes.length) :
    Translated services device event frame ↔ Kept device frame := by
  by_cases rerouted : Rerouted device frame
  · obtain ⟨opcode, header⟩ := scanned_front device frame rerouted long
    have awake := (scan_wakes device frame).mpr ((wakes_routing device frame rerouted.2).mpr rerouted.1)
    obtain ⟨_, payload, first⟩ := build_awake device event frame free awake
    have rest := first long
    constructor
    · intro translated _
      have holds := translated.rerouted rerouted
      by_cases exact_length : frame.bytes.length = routingChangeLength
      · rw [if_pos exact_length] at holds
        have lengths := congrArg List.length holds
        rw [payload_length, (build_header device event frame).2.2, exact_length] at lengths
        cases lengths
      · rw [if_neg exact_length] at holds
        rw [routingChangeLength] at exact_length holds
        by_cases short : frame.bytes.length < 6
        · rw [if_pos short, rest, opcode] at holds
          by_cases tiny : frame.bytes.length < 4
          · rw [if_pos tiny] at holds
            exact absurd holds (by decide)
          · omega
        · rw [if_neg short, payload] at holds
          have there : frame.bytes.tail.head? = some (frame.msgBuf.at 1) := by
            rw [msg_buf_at, List.head?_tail, List.getD_eq_getElem?_getD, List.getElem?_eq_getElem long]
            rfl
          have front := operands_head _ _ _ (holds ▸ there)
          rw [opcode, if_neg (by omega)] at front
          exact absurd (front.trans rerouted.2) (by decide)
    · intro kept
      have whole : 4 ≤ frame.bytes.length := by
        rcases kept rerouted with four | five <;> omega
      rw [if_neg (Nat.not_lt_of_le whole)] at opcode
      refine translated_plain services device event frame free long (header whole) (.inl (opcode ▸ by decide)) fun _ => ?_
      have short : frame.bytes.length < routingChangeLength := by
        rw [routingChangeLength]
        rcases kept rerouted with four | five <;> omega
      rw [if_neg (Nat.ne_of_lt short), if_pos short, rest, opcode]
      decide
  · have same := scanned_same device frame rerouted
    refine iff_of_true ?_ fun never => absurd never rerouted
    refine translated_plain services device event frame free long (congrArg (Body.at · 0) same) ?_ fun never => absurd never rerouted
    by_cases wakes : Wakes device frame
    · exact .inl (same ▸ wakes_opcode device frame wakes)
    · exact .inr wakes

def dongle : CecDevice := openCecDevice (initDevice [devTypePlayback]) 3

-- The power key wakes.
def powerKey : Frame := ⟨[0x04, 0x44, 0x40], by decide⟩

theorem power_key_translated : Translated plainServices dongle .blank powerKey :=
  (translated_iff plainServices dongle .blank powerKey rfl (by decide)).mpr fun rerouted =>
    absurd rerouted.2 (by decide)

-- From 1.0.0.0 to 2.1.0.0.
def routingChange : Frame := ⟨[0x0F, 0x80, 0x10, 0x00, 0x21, 0x00], by decide⟩

theorem routing_change_too_long : ¬Translated plainServices dongle .blank routingChange := by
  intro translated
  have payload := translated.rerouted ⟨by decide, by decide⟩
  rw [if_pos (by decide)] at payload
  exact absurd payload (by decide)

end Droidlogic.Cec.WakeUp
