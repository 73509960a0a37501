import Droidlogic.Ts.Output

set_option autoImplicit false

namespace Droidlogic.Ts

open Droidlogic.Lib

-- The clock reference behind the adaptation flags: 33 bits of base, 6 reserved ones and 9
-- of extension.
def pcrOf : Bytes → Option (Nat × Nat)
  | _ :: _ :: _ :: control :: size :: flags :: b0 :: b1 :: b2 :: b3 :: b4 :: b5 :: _ =>
      if control.toNat / 32 % 2 = 1 ∧ 7 ≤ size.toNat ∧ flags.toNat / 16 % 2 = 1 then
        some (b0.toNat * 2 ^ 25 + b1.toNat * 2 ^ 17 + b2.toNat * 2 ^ 9 + b3.toNat * 2 + b4.toNat / 128,
          b4.toNat % 2 * 256 + b5.toNat)
      else none
  | _ => none

-- The packet gives the 27 MHz clock back.
def KeepsClock (packet : Bytes) (nowUs : Int64) : Prop :=
  ∃ base ext, pcrOf packet = some (base, ext) ∧
    ((base * 300 + ext : Nat) : Int) % (2 ^ 33 * 300) = nowUs.toInt * 27 % (2 ^ 33 * 300)

def pcrCount (nowUs : Int64) : Nat := (nowUs * 27).toUInt64.toNat

theorem pcr_count_parity (nowUs : Int64) : (pcrCount nowUs : Int) % 2 = nowUs.toInt * 27 % 2 := by
  have product : (nowUs * 27).toInt = (nowUs.toInt * 27).bmod (2 ^ 64) := Int64.toInt_mul nowUs 27
  have bits : (nowUs * 27).toInt = (pcrCount nowUs : Int).bmod (2 ^ 64) := BitVec.toInt_eq_toNat_bmod _
  rw [bits, Int.bmod_def, Int.bmod_def] at product
  omega

-- Five bytes are written: the low byte of the extension stands where its upper bits are to
-- be, and stuffing in its own place.
theorem pcr_packet_decoded (nowUs : Int64) :
    ∃ base, pcrOf (pcrPacket nowUs) = some (base, (UInt8.ofNat (pcrCount nowUs % 300 &&& 0xff)).toNat % 2 * 256 + 255) :=
  ⟨_, rfl⟩

theorem pcr_loses_clock (nowUs : Int64) : ¬KeepsClock (pcrPacket nowUs) nowUs := by
  rintro ⟨base, ext, decoded, same⟩
  obtain ⟨written, read⟩ := pcr_packet_decoded nowUs
  rw [read] at decoded
  cases decoded
  have parity := pcr_count_parity nowUs
  have low : (UInt8.ofNat (pcrCount nowUs % 300 &&& 0xff)).toNat % 2 = pcrCount nowUs % 2 := by
    have mask : pcrCount nowUs % 300 &&& 0xff = pcrCount nowUs % 300 % 256 := Nat.and_two_pow_sub_one_eq_mod _ 8
    rw [UInt8.toNat_ofNat', mask]
    omega
  rw [low] at same
  -- An odd number is read, so the clock is odd and the extension 511, but the clock is a
  -- multiple of three.
  omega

theorem pcr_packet_only (packer final : TSPacker) (args : Args) (output : Bytes) (asked : emitPcr args.flags = true)
    (emitted : packetize packer args = some (output, final)) :
    pidPackets kPidPcr (chunks 188 output) = [pcrPacket args.nowUs] := by
  obtain ⟨packets, tables, stream, ready, last, rfl, parts⟩ := packetize_written packer final args output emitted
  have noTables : pidPackets kPidPcr tables = [] :=
    pid_packets_other _ _ fun packet member same => by
      rcases (parts.table_each packet member).2.2 with pat | pmt
      · exact absurd (same.symm.trans pat) (by decide)
      · exact absurd (same.symm.trans pmt) (by decide)
  have noStream : pidPackets kPidPcr stream = [] :=
    pid_packets_other _ _ fun packet member same => by
      rw [(parts.stream_each packet member).2.2] at same
      cases audio : args.isAudio <;> simp [audio, streamPid, kPidAudio, kPidVideo, kPidPcr] at same
  have own : pidPackets kPidPcr (pcrFor args) = [pcrPacket args.nowUs] := by
    rw [pid_packets_all _ _ fun packet member => (pcr_each packet member).2.2, pcrFor, if_pos asked]
  rw [parts.chunked, parts.parts, pid_packets_append, pid_packets_append, noTables, noStream, own]
  rfl

theorem pcr_never_kept (packer final : TSPacker) (args : Args) (output : Bytes) (asked : emitPcr args.flags = true)
    (emitted : packetize packer args = some (output, final)) :
    ∃ packet, pidPackets kPidPcr (chunks 188 output) = [packet] ∧ ¬KeepsClock packet args.nowUs :=
  ⟨_, pcr_packet_only packer final args output asked emitted, pcr_loses_clock args.nowUs⟩

theorem clock_call_sized : ([0x01] : Bytes).length < 2 ^ 31 := by decide

def clockCall : Args := ⟨false, [0x01], 2, [], 0, 0, 1500000000000000, clock_call_sized⟩

theorem clock_call_lost :
    ∃ output final packet, packetize (construct false false) clockCall = some (output, final) ∧
      pidPackets kPidPcr (chunks 188 output) = [packet] ∧ ¬KeepsClock packet 1500000000000000 := by
  obtain ⟨packets, final, _, _, emitted, _⟩ := packetize_some (construct false false) clockCall [] _ (by decide) rfl
  obtain ⟨packet, only, lost⟩ := pcr_never_kept (construct false false) final clockCall _ (by decide) emitted
  exact ⟨_, final, packet, emitted, only, lost⟩

theorem zero_clock_lost : pcrOf (pcrPacket 0) = some (252, 255) ∧
    ¬∀ nowUs : Int64, 0 ≤ nowUs → KeepsClock (pcrPacket nowUs) nowUs := by
  refine ⟨rfl, fun all => ?_⟩
  obtain ⟨base, ext, decoded, same⟩ := all 0 (by decide)
  cases decoded
  exact absurd same (by decide)

end Droidlogic.Ts
