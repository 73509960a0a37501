import Droidlogic.Cec.Send

set_option autoImplicit false

namespace Droidlogic.Cec.Codec

open Lib

def origin (sender : CecDevice) (call : CallMessage) (isExtend : Bool) : Nat :=
  if isExtend then ownAddress sender else call.initiator

structure Same (sender : CecDevice) (call : CallMessage) (isExtend : Bool) (event : HdmiCecEvent) : Prop where
  initiator : event.cec.initiator = origin sender call isExtend
  destination : event.cec.destination = call.destination
  length : event.cec.length = call.body.length
  body : event.cec.payload = call.body

structure Delivered (sender receiver : CecDevice) (call : CallMessage) (isExtend : Bool) (event : HdmiCecEvent)
    (message : CecMessage) : Prop where
  written : send message = some (.ofNat (origin sender call isExtend * 16 + call.destination) :: call.body)
  received : call.body ≠ [] → ∀ frame, send message = some frame.bytes →
    Same sender call isExtend (build receiver event frame)

-- A playback device that is not controlled answers <Routing Change> as <Set Stream Path>.
def Translated (receiver : CecDevice) (call : CallMessage) : Prop :=
  receiver.isCecControlled = false ∧ devTypePlayback ∈ receiver.mDeviceTypes ∧
    call.body.head? = some cecMessageRoutingChange

structure Reached (sender : CecDevice) (call : CallMessage) (isExtend : Bool) (message : CecMessage) : Prop where
  initiator : message.initiator = origin sender call isExtend
  small : message.initiator < 16
  destination : message.destination = call.destination
  length : message.length = call.body.length
  body : message.payload = call.body

theorem own_address_small (device : CecDevice) : ownAddress device < 16 := by
  rw [ownAddress]
  split
  · decide
  · cases found : (List.range 15).find? fun i => (device.mAddrBitmap &&& 0x7fff).testBit i with
    | none => decide
    | some i =>
        have below := List.mem_range.mp (List.mem_of_find?_eq_some found)
        exact Nat.lt_succ_of_lt below

theorem message_reached (services : Services) (sender : CecDevice) (stack extStack : Body) (call : CallMessage)
    (isExtend : Bool) (native message : CecMessage) (accepted : toNative stack call = some native)
    (reaches : (sendMessage services sender extStack native isExtend).sent = .ok message) :
    Reached sender call isExtend message := by
  rw [toNative] at accepted
  split at accepted
  · rename_i fits
    cases accepted
    have body := payload_fill call.initiator call.destination call.body.length stack call.body fits fits rfl
    rw [sendMessage] at reaches
    split at reaches
    · cases reaches
    · split at reaches
      · cases reaches
      · split at reaches
        · rename_i extend
          rw [sendExtMessage] at reaches
          split at reaches
          · rename_i msg its
            cases reaches
            split at its
            · cases its
            · cases its
              have same : origin sender call isExtend = ownAddress sender := if_pos extend
              refine ⟨same.symm, own_address_small sender, rfl, rfl, ?_⟩
              exact (payload_fill _ _ _ extStack _ _ _ (payload_length _).symm).trans body
          · cases reaches
        · rename_i plain
          have same : origin sender call isExtend = call.initiator := if_neg plain
          split at reaches
          · cases reaches
          · simp only at reaches
            split at reaches
            · cases reaches
            · cases reaches
              exact ⟨same.symm, call.initiator.isLt, rfl, rfl, body⟩
  · cases accepted

def headerOf (sender : CecDevice) (call : CallMessage) (isExtend : Bool) : UInt8 :=
  .ofNat (origin sender call isExtend * 16 + call.destination)

theorem header_eq (sender : CecDevice) (call : CallMessage) (isExtend : Bool) (message : CecMessage)
    (reached : Reached sender call isExtend message) : header message = headerOf sender call isExtend := by
  have low (n : Nat) (small : n < 16) : n &&& 0xf = n := by
    rw [show 0xf = 2 ^ 4 - 1 from rfl, Nat.and_two_pow_sub_one_eq_mod]
    exact Nat.mod_eq_of_lt small
  have destination : message.destination < 16 := reached.destination ▸ call.destination.isLt
  rw [header, headerOf, low _ reached.small, low _ destination, ← Nat.shiftLeft_add_eq_or_of_lt destination,
    Nat.shiftLeft_eq, reached.initiator, reached.destination]

theorem send_some (sender : CecDevice) (call : CallMessage) (isExtend : Bool) (message : CecMessage)
    (reached : Reached sender call isExtend message) (short : call.body.length ≤ 15) :
    send message = some (headerOf sender call isExtend :: call.body) := by
  rw [send_short message (reached.length.trans_le short), header_eq sender call isExtend message reached, reached.body]

theorem send_none (sender : CecDevice) (call : CallMessage) (isExtend : Bool) (message : CecMessage)
    (reached : Reached sender call isExtend message) (long : ¬call.body.length ≤ 15) : send message = none := by
  have tooLong : overwrite (Body.zero.set 0 (header message)).bytes 1 message.payload = none := by
    rw [overwrite_none_iff, Body.sized, reached.body, cecMessageBodyMaxLength]
    omega
  rw [send, tooLong, Option.map_none]

theorem header_parts (high low : Nat) (highSmall : high < 16) (lowSmall : low < 16) :
    (UInt8.ofNat (high * 16 + low) >>> 4 &&& 0xf).toNat = high ∧ (UInt8.ofNat (high * 16 + low) &&& 0xf).toNat = low := by
  have mask (n : Nat) : n &&& 15 = n % 16 := Nat.and_two_pow_sub_one_eq_mod n 4
  have whole : (UInt8.ofNat (high * 16 + low)).toNat = high * 16 + low := by
    rw [UInt8.toNat_ofNat', Nat.mod_eq_of_lt]
    omega
  constructor
  · rw [UInt8.toNat_and, UInt8.toNat_shiftRight, whole]
    simp only [UInt8.reduceToNat, Nat.reduceMod, mask, Nat.shiftRight_eq_div_pow]
    omega
  · rw [UInt8.toNat_and, whole]
    simp only [UInt8.reduceToNat, mask]
    omega

theorem decode_same (sender : CecDevice) (call : CallMessage) (isExtend : Bool) (event : HdmiCecEvent) (frame : Frame)
    (small : origin sender call isExtend < 16) (bytes : frame.bytes = headerOf sender call isExtend :: call.body) :
    Same sender call isExtend (decode event frame frame.bytes.length frame.fits) := by
  have first : frame.msgBuf.at 0 = headerOf sender call isExtend := buffer_at frame 0 _ (bytes ▸ rfl)
  obtain ⟨high, low⟩ := header_parts (origin sender call isExtend) call.destination small call.destination.isLt
  have length : frame.bytes.length - 1 = call.body.length := by
    rw [bytes, List.length_cons, Nat.add_sub_cancel]
  have whole := operands_whole frame _ _ bytes
  refine ⟨?_, ?_, length, ?_⟩
  · rw [decode, first]
    exact high
  · rw [decode, first]
    exact low
  · exact (payload_fill _ _ _ _ _ (operands_fit _ _) _ (length.trans (congrArg List.length whole.symm))).trans whole

theorem build_same_iff (sender receiver : CecDevice) (call : CallMessage) (isExtend : Bool) (event : HdmiCecEvent)
    (frame : Frame) (small : origin sender call isExtend < 16)
    (bytes : frame.bytes = headerOf sender call isExtend :: call.body) (some_byte : call.body ≠ []) :
    Same sender call isExtend (build receiver event frame) ↔ ¬Translated receiver call := by
  have decoded := decode_same sender call isExtend event frame small bytes
  have whole := operands_whole frame _ _ bytes
  have opcode (byte : UInt8) (head : call.body.head? = some byte) : frame.msgBuf.at 1 = byte := by
    refine buffer_at frame 1 byte ?_
    rw [bytes, List.getElem?_cons_succ, ← List.head?_eq_getElem?, head]
  rw [build, control]
  by_cases controlled : receiver.isCecControlled = true
  · rw [if_pos controlled]
    refine iff_of_true ⟨decoded.initiator, decoded.destination, decoded.length, decoded.body⟩ ?_
    rintro ⟨free, _⟩
    rw [controlled] at free
    cases free
  · rw [if_neg controlled]
    by_cases translated : Translated receiver call
    · obtain ⟨_, playback, head⟩ := translated
      have rewrites := wake_rewrites frame.bytes.length _ frame.msgBuf playback (opcode _ head)
      obtain ⟨hit, rewritten⟩ := wake_by_rewrites frame.bytes.length frame.msgBuf (opcode _ head)
      have changed := rewritten_ne _ cecMessageRoutingChange rewritten (by decide) (by decide)
      refine iff_of_false (fun same => changed ?_) (not_not_intro ⟨Bool.eq_false_iff.mpr controlled, playback, head⟩)
      simp only [rewrites, hit, if_true] at same
      have body := (payload_fill _ _ _ _ _ (operands_fit _ _) _ (operands_length _ _ frame.fits)).symm.trans same.body
      exact operands_head _ _ _ (body ▸ head)
    · have plain : devTypePlayback ∉ receiver.mDeviceTypes ∨ frame.msgBuf.at 1 ≠ cecMessageRoutingChange := by
        refine not_and_or.mp ?_
        rintro ⟨playback, same⟩
        refine translated ⟨Bool.eq_false_iff.mpr controlled, playback, ?_⟩
        rw [List.head?_eq_some_head some_byte, ← same, opcode _ (List.head?_eq_some_head some_byte)]
      have stays := wake_same frame.bytes.length receiver.mDeviceTypes frame.msgBuf plain
      simp only [stays]
      refine iff_of_true ?_ translated
      split
      · exact ⟨decoded.initiator, decoded.destination, decoded.length,
          (payload_fill _ _ _ _ _ (operands_fit _ _) _ (operands_length _ _ frame.fits)).trans whole⟩
      · exact decoded

theorem codec_iff (services : Services) (sender receiver : CecDevice) (stack extStack : Body) (call : CallMessage)
    (isExtend : Bool) (event : HdmiCecEvent) (native message : CecMessage) (accepted : toNative stack call = some native)
    (reaches : (sendMessage services sender extStack native isExtend).sent = .ok message) :
    Delivered sender receiver call isExtend event message ↔ call.body.length ≤ 15 ∧ ¬Translated receiver call := by
  have reached := message_reached services sender stack extStack call isExtend native message accepted reaches
  have small : origin sender call isExtend < 16 := reached.initiator ▸ reached.small
  by_cases short : call.body.length ≤ 15
  · have sent := send_some sender call isExtend message reached short
    have fits : (headerOf sender call isExtend :: call.body).length ≤ cecMessageBodyMaxLength := by
      rw [List.length_cons, cecMessageBodyMaxLength]
      omega
    constructor
    · rintro ⟨_, received⟩
      refine ⟨short, fun translated => ?_⟩
      have some_byte : call.body ≠ [] := fun empty => by
        rw [Translated, empty] at translated
        exact absurd translated.2.2 nofun
      exact (build_same_iff sender receiver call isExtend event ⟨_, fits⟩ small rfl some_byte).mp
        (received some_byte ⟨_, fits⟩ sent) translated
    · rintro ⟨_, plain⟩
      refine ⟨sent, fun some_byte frame its => ?_⟩
      have bytes : frame.bytes = headerOf sender call isExtend :: call.body := Option.some.inj (its.symm.trans sent)
      exact (build_same_iff sender receiver call isExtend event frame small bytes some_byte).mpr plain
  · have lost := send_none sender call isExtend message reached short
    refine iff_of_false (fun delivered => ?_) fun both => short both.1
    rw [delivered.written] at lost
    cases lost

def television : CecDevice := openCecDevice (initDevice [devTypeTv]) 3

def powerQuery (initiator destination : Fin 16) : CallMessage := ⟨initiator, destination, [0x8F]⟩

theorem codec_power_query : ∃ native, toNative .zero (powerQuery 0 4) = some native ∧
    (sendMessage plainServices television .zero native false).sent = .ok native ∧
      Delivered television television (powerQuery 0 4) false .blank native := by
  refine ⟨_, rfl, rfl, ?_⟩
  exact (codec_iff plainServices television television .zero .zero (powerQuery 0 4) false .blank _ _ rfl rfl).mpr
    ⟨by decide, fun translated => absurd translated.2.1 (by decide)⟩

def longestCall (initiator destination : Fin 16) : CallMessage :=
  ⟨initiator, destination, 0xA0 :: List.replicate 15 0⟩

-- Sixteen operands are accepted, and with the header they do not fit msgBuf.
theorem longest_call_overruns : ∃ native, toNative .zero (longestCall 0 4) = some native ∧
    (sendMessage plainServices television .zero native false).sent = .ok native ∧ send native = none ∧
      ¬Delivered television television (longestCall 0 4) false .blank native := by
  refine ⟨_, rfl, rfl, rfl, fun delivered => ?_⟩
  cases delivered.written

end Droidlogic.Cec.Codec
