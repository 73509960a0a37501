import Droidlogic.Lib.Chunks
import Droidlogic.Ts.Packer

set_option autoImplicit false

namespace Droidlogic.Ts

open Droidlogic.Lib

def pidOf : Bytes → Nat
  | _ :: high :: low :: _ => high.toNat % 32 * 256 + low.toNat
  | _ => 0

def counterOf : Bytes → Nat
  | _ :: _ :: _ :: control :: _ => control.toNat % 16
  | _ => 0

def carriesPayload : Bytes → Bool
  | _ :: _ :: _ :: control :: _ => control.toNat / 16 % 2 = 1
  | _ => false

def payloadOf : Bytes → Bytes
  | _ :: _ :: _ :: control :: rest =>
      if control.toNat / 16 % 2 = 0 then []
      else if control.toNat / 32 % 2 = 0 then rest
      else
        match rest with
        | [] => []
        | length :: rest => rest.drop length.toNat
  | _ => []

-- bytesBehind counts what follows the PES_packet_length field.
structure Pes where
  streamId : UInt8
  packetLength : Nat
  bytesBehind : Nat
  pts : Nat
  privateData : Bytes
  payload : Bytes
deriving DecidableEq

def ptsOf : Bytes → Option Nat
  | [a, b, c, d, e] =>
      some (a.toNat / 2 % 8 * 2 ^ 30 + b.toNat * 2 ^ 22 + c.toNat / 2 * 2 ^ 15 + d.toNat * 2 ^ 7 + e.toNat / 2)
  | _ => none

-- Only a PTS and an extension with private data are expected in the header. The
-- length of the private data is not on the wire: the receiver has to know it.
def privateOf (privateLen : Nat) (flags : UInt8) (optional : Bytes) : Option Bytes :=
  if flags.toNat % 2 = 0 then some []
  else
    match optional with
    | extension :: rest => if extension.toNat / 128 = 1 ∧ privateLen ≤ rest.length then some (rest.take privateLen) else none
    | [] => none

def parsePes (privateLen : Nat) : Bytes → Option Pes
  | 0x00 :: 0x00 :: 0x01 :: streamId :: high :: low :: _ :: flags :: headerLength :: rest =>
      if flags.toNat / 2 = 64 ∧ headerLength.toNat ≤ rest.length then
        match ptsOf (rest.take 5), privateOf privateLen flags ((rest.take headerLength.toNat).drop 5) with
        | some pts, some privateData =>
            some ⟨streamId, high.toNat * 256 + low.toNat, 3 + rest.length, pts, privateData,
              rest.drop headerLength.toNat⟩
        | _, _ => none
      else none
  | _ => none

def pidPackets (pid : Nat) (packets : List Bytes) : List Bytes := packets.filter fun packet => pidOf packet = pid

def demux (pid privateLen : Nat) (buffer : Bytes) : Option Pes :=
  parsePes privateLen ((pidPackets pid (chunks 188 buffer)).flatMap payloadOf)

theorem pad_length (numPaddingBytes : Nat) : (adaptationField numPaddingBytes).length = numPaddingBytes := by
  unfold adaptationField
  split
  · split
    · simp only [List.length_cons, List.length_replicate]
      omega
    · simp only [List.length_cons, List.length_nil]
      omega
  · simp only [List.length_nil]
    omega

theorem byte_nat (n : Nat) (small : n < 256) : (UInt8.ofNat n).toNat = n := by
  rw [UInt8.toNat_ofNat']
  exact Nat.mod_eq_of_lt small

theorem pad_drop (numPaddingBytes : Nat) (content : Bytes) (positive : 0 < numPaddingBytes)
    (small : numPaddingBytes ≤ 184) :
    ∃ length rest, adaptationField numPaddingBytes ++ content = length :: rest ∧ rest.drop length.toNat = content := by
  have size := pad_length numPaddingBytes
  rw [adaptationField, if_pos positive] at size ⊢
  refine ⟨_, _, rfl, ?_⟩
  rw [byte_nat _ (by omega)]
  simp only [List.length_cons] at size
  apply List.drop_left'
  omega

theorem control_plain (counter : Fin 16) :
    (UInt8.ofNat (0x10 ||| counter.val)).toNat = 16 + counter.val := by
  revert counter
  decide

theorem control_padded (counter : Fin 16) :
    (UInt8.ofNat (0x30 ||| counter.val)).toNat = 48 + counter.val := by
  revert counter
  decide

theorem stream_packet_some (unitStart pid numPaddingBytes : Nat) (counter : Fin 16) (content : Bytes)
    (full : numPaddingBytes + content.length = 184) :
    streamPacket unitStart pid counter numPaddingBytes content =
      some ([0x47, .ofNat (unitStart ||| pid >>> 8), .ofNat (pid &&& 0xff),
        .ofNat ((if 0 < numPaddingBytes then 0x30 else 0x10) ||| counter.val)] ++
        adaptationField numPaddingBytes ++ content) := by
  have size := pad_length numPaddingBytes
  rw [streamPacket, if_pos]
  simp only [List.length_append, List.length_cons, List.length_nil, size]
  omega

structure PayloadPacket (pid : Nat) (counter : Fin 16) (content packet : Bytes) : Prop where
  size : packet.length = 188
  sync : packet.head? = some 0x47
  pid : pidOf packet = pid
  count : counterOf packet = counter.val
  carries : carriesPayload packet = true
  payload : payloadOf packet = content

theorem stream_packet_read (isAudio : Bool) (unitStart numPaddingBytes : Nat) (counter : Fin 16) (content : Bytes)
    (starts : unitStart = 0x40 ∨ unitStart = 0x00) (full : numPaddingBytes + content.length = 184) :
    ∃ packet, streamPacket unitStart (streamPid isAudio) counter numPaddingBytes content = some packet ∧
      PayloadPacket (streamPid isAudio) counter content packet := by
  refine ⟨_, stream_packet_some unitStart _ _ counter content full, ?_⟩
  have pidBytes : (UInt8.ofNat (unitStart ||| streamPid isAudio >>> 8)).toNat % 32 * 256 +
      (UInt8.ofNat (streamPid isAudio &&& 0xff)).toNat = streamPid isAudio := by
    rcases starts with rfl | rfl <;> cases isAudio <;> decide
  have small := counter.isLt
  have size := pad_length numPaddingBytes
  by_cases padded : 0 < numPaddingBytes
  · obtain ⟨length, rest, shape, dropped⟩ := pad_drop numPaddingBytes content padded (by omega)
    constructor
    · simp only [List.length_append, List.length_cons, List.length_nil, size]
      omega
    · simp
    · simpa [pidOf] using pidBytes
    · simp only [if_pos padded, List.cons_append, counterOf, control_padded]
      omega
    · simp only [if_pos padded, List.append_assoc, List.cons_append, carriesPayload, control_padded, decide_eq_true_eq]
      omega
    · simp only [if_pos padded, List.cons_append, List.nil_append, payloadOf, control_padded, shape]
      rw [if_neg (by omega), if_neg (by omega), dropped]
  · have none_padded : numPaddingBytes = 0 := by omega
    subst none_padded
    constructor
    · simp only [List.length_append, List.length_cons, List.length_nil, size]
      omega
    · simp
    · simpa [pidOf] using pidBytes
    · simp only [if_neg padded, List.append_assoc, List.cons_append, counterOf, control_plain]
      omega
    · simp only [if_neg padded, List.append_assoc, List.cons_append, carriesPayload, control_plain, decide_eq_true_eq]
      omega
    · simp only [if_neg padded, List.cons_append, List.nil_append, payloadOf, control_plain,
        adaptationField]
      rw [if_neg (by omega), if_pos (by omega)]

end Droidlogic.Ts
