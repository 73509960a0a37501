import Droidlogic.Ts.Section

set_option autoImplicit false

namespace Droidlogic.Ts

open Droidlogic.Lib

theorem pts_high (k : Nat) (small : k < 8) : (UInt8.ofNat (0x20 ||| k <<< 1 ||| 1)).toNat / 2 % 8 = k := by
  revert k
  decide

theorem pts_low (k : Nat) (small : k < 128) : (UInt8.ofNat (k <<< 1 ||| 1)).toNat / 2 = k := by
  revert k
  decide

theorem low_byte (n : Nat) : n &&& 0xff = n % 2 ^ 8 := Nat.and_two_pow_sub_one_eq_mod n 8

theorem pts_bytes_read (pts : Nat) : ptsOf (ptsBytes pts) = some (pts % 2 ^ 33) := by
  have low7 (n : Nat) : n &&& 0x7f = n % 2 ^ 7 := Nat.and_two_pow_sub_one_eq_mod n 7
  have low3 (n : Nat) : n &&& 7 = n % 2 ^ 3 := Nat.and_two_pow_sub_one_eq_mod n 3
  simp only [ptsBytes, ptsOf, low_byte, low7, low3, Nat.shiftRight_eq_div_pow]
  rw [pts_high _ (by omega), pts_low _ (by omega), pts_low _ (by omega), byte_nat _ (by omega), byte_nat _ (by omega)]
  simp only [Option.some.injEq]
  omega

theorem parse_pes_read (privateLen pts : Nat) (streamId high low flags headerLength : UInt8)
    (ptsPart optional payload privateData : Bytes) (five : ptsPart.length = 5)
    (announced : headerLength.toNat = 5 + optional.length) (timed : flags.toNat / 2 = 64)
    (ptsRead : ptsOf ptsPart = some pts) (privateRead : privateOf privateLen flags optional = some privateData) :
    parsePes privateLen ([0x00, 0x00, 0x01, streamId, high, low, 0x84, flags, headerLength] ++
        (ptsPart ++ optional ++ payload)) =
      some ⟨streamId, high.toNat * 256 + low.toNat, 8 + optional.length + payload.length, pts, privateData, payload⟩ := by
  have room : headerLength.toNat ≤ (ptsPart ++ optional ++ payload).length := by
    rw [List.length_append, List.length_append, five, announced]
    omega
  have header : (ptsPart ++ optional ++ payload).take headerLength.toNat = ptsPart ++ optional := by
    apply List.take_left'
    rw [List.length_append, five, announced]
  have behind : (ptsPart ++ optional ++ payload).drop headerLength.toNat = payload := by
    apply List.drop_left'
    rw [List.length_append, five, announced]
  have first : (ptsPart ++ optional ++ payload).take 5 = ptsPart := by
    rw [List.append_assoc]
    exact List.take_left' five
  have rest : (ptsPart ++ optional).drop 5 = optional := List.drop_left' five
  simp only [List.cons_append, List.nil_append, parsePes]
  rw [if_pos ⟨timed, room⟩, header, behind, first, rest, ptsRead, privateRead]
  simp only [List.length_append, five, Option.some.injEq, Pes.mk.injEq, true_and, and_true]
  omega

def bytesBehind (args : Args) : Nat := 8 + args.numStuffingBytes + privateSize args + args.buffer.length

theorem pes_packet_length (args : Args) (fits : PesFits args) :
    pesPacketLength args = if 65536 ≤ bytesBehind args then 0 else bytesBehind args := by
  have size := args.buffer_size
  unfold PesFits at fits
  by_cases plain : args.buffer.length + 8 < 2 ^ 31
  · have unwrapped : Int.bmod (args.buffer.length + 8) (2 ^ 32) = args.buffer.length + 8 :=
      Int.bmod_eq_of_le (by omega) (by omega)
    have sum : (((args.buffer.length : Int) + 8 + args.numStuffingBytes + privateSize args) % 2 ^ 64).toNat =
        bytesBehind args := by
      rw [bytesBehind]
      omega
    simp only [pesPacketLength, unwrapped, sum]
  · -- The int sum has turned negative: as a size_t it is far too long.
    have wrapped : Int.bmod (args.buffer.length + 8) (2 ^ 32) = args.buffer.length + 8 - 2 ^ 32 := by
      rw [Int.bmod_def, if_neg (by omega)]
      omega
    have long : 65536 ≤ bytesBehind args := by
      rw [bytesBehind]
      omega
    simp only [pesPacketLength, wrapped]
    rw [if_pos (by omega), if_pos long]

theorem private_of_read (args : Args) (stuffing : Bytes) :
    privateOf args.privateData.length (if args.privateData = [] then 0x80 else 0x81)
      ((if args.privateData = [] then [] else 0x8e :: args.privateData) ++ stuffing) = some args.privateData := by
  by_cases absent : args.privateData = []
  · simp [absent, privateOf]
  · have room : args.privateData.length ≤ (args.privateData ++ stuffing).length := by simp
    simp [absent, privateOf]

theorem optional_length (args : Args) :
    ((if args.privateData = [] then [] else 0x8e :: args.privateData) ++
      List.replicate args.numStuffingBytes (0xff : UInt8)).length = args.numStuffingBytes + privateSize args := by
  by_cases absent : args.privateData = []
  · simp [absent, privateSize]
  · simp only [absent, if_false, privateSize, List.length_append, List.length_cons, List.length_replicate]
    omega

theorem parse_pes_header (packer : TSPacker) (args : Args) (fits : PesFits args) :
    parsePes args.privateData.length (pesHeader packer args ++ args.buffer) =
      some ⟨streamId packer args.isAudio, pesPacketLength args, bytesBehind args, pts args.timeUs % 2 ^ 33,
        args.privateData, args.buffer⟩ := by
  have optional := optional_length args
  have packetLength := pes_packet_length args fits
  have below : pesPacketLength args < 65536 := by
    rw [packetLength]
    split <;> omega
  unfold PesFits at fits
  have headerLength : (UInt8.ofNat (5 + args.numStuffingBytes + privateSize args)).toNat = 5 +
      ((if args.privateData = [] then [] else 0x8e :: args.privateData) ++
        List.replicate args.numStuffingBytes (0xff : UInt8)).length := by
    rw [byte_nat _ (by omega), optional]
    omega
  have timed : (if args.privateData = [] then (0x80 : UInt8) else 0x81).toNat / 2 = 64 := by split <;> rfl
  have whole := parse_pes_read args.privateData.length _ (streamId packer args.isAudio)
    (.ofNat (pesPacketLength args >>> 8)) (.ofNat (pesPacketLength args &&& 0xff)) _ _ _ _ args.buffer _
    (pts_bytes_length (pts args.timeUs)) headerLength timed (pts_bytes_read (pts args.timeUs)) (private_of_read args _)
  have twoBytes : (UInt8.ofNat (pesPacketLength args >>> 8)).toNat * 256 +
      (UInt8.ofNat (pesPacketLength args &&& 0xff)).toNat = pesPacketLength args := by
    rw [low_byte, Nat.shiftRight_eq_div_pow, byte_nat _ (by omega), byte_nat _ (by omega)]
    omega
  rw [optional, twoBytes] at whole
  simp only [pesHeader, List.append_assoc] at whole ⊢
  rw [whole, bytesBehind, ← Nat.add_assoc]

theorem pts_of_time (timeUs : Int64) (nonnegative : 0 ≤ timeUs.toInt) (noOverflow : timeUs.toInt * 9 < 2 ^ 63) :
    pts timeUs = (timeUs.toInt * 9 / 100).toNat := by
  have product : (timeUs * 9).toInt = timeUs.toInt * 9 := by
    rw [Int64.toInt_mul, show (9 : Int64).toInt = 9 by decide]
    exact Int.bmod_eq_of_le (by omega) (by omega)
  have quotient : (timeUs * 9 / 100).toInt = timeUs.toInt * 9 / 100 := by
    rw [Int64.toInt_div_of_ne_right _ _ (by decide), product, show (100 : Int64).toInt = 100 by decide,
      Int.tdiv_eq_ediv_of_nonneg (by omega)]
  have positive : (0 : Int64) ≤ timeUs * 9 / 100 := by
    rw [Int64.le_iff_toInt_le, quotient, show (0 : Int64).toInt = 0 by decide]
    omega
  rw [pts, Int64.toNat_toUInt64_of_le positive, ← quotient, Int64.toInt_eq_toNatClampNeg positive, Int.toNat_natCast]

theorem stream_id_same (packer ready : TSPacker) (args : Args) (tables : List Bytes)
    (tabled : tablesFor packer args = some (tables, ready)) (isAudio : Bool) :
    streamId ready isAudio = streamId packer isAudio := by
  rcases tables_for_some packer ready args tables tabled with ⟨_, _, rfl⟩ | ⟨_, finalized, _⟩
  · rfl
  · have same := head_finalize_counters _ _ finalized
    have pcm : ready.mIsPcmAudio = packer.mIsPcmAudio := by rw [same]; rfl
    rw [streamId, streamId, pcm]

theorem packetize_round_trip (packer : TSPacker) (args : Args) (reachable : Reachable packer) (fits : PesFits args)
    (nonnegative : 0 ≤ args.timeUs.toInt) (noOverflow : args.timeUs.toInt * 9 < 2 ^ 63) :
    ∃ output final, packetize packer args = some (output, final) ∧ output.length = 188 * numTSPackets args ∧
      (∀ packet ∈ chunks 188 output, packet.length = 188 ∧ packet.head? = some 0x47) ∧
      demux (streamPid args.isAudio) args.privateData.length output =
        some ⟨streamId packer args.isAudio, if 65536 ≤ bytesBehind args then 0 else bytesBehind args, bytesBehind args,
          (args.timeUs.toInt * 9 / 100).toNat % 2 ^ 33, args.privateData, args.buffer⟩ := by
  obtain ⟨tables, ready, tabled⟩ := tables_for_total packer args (reachable_well_formed packer reachable)
  obtain ⟨packets, final, stream, last, done, parts, count⟩ := packetize_some packer args tables ready fits tabled
  refine ⟨packets.flatten, final, done, ?_, ?_, ?_⟩
  · rw [← count]
    exact flatten_length_sized 188 packets fun packet member => (parts.each packet member).1
  · rw [parts.chunked]
    exact parts.each
  · rw [demux, parts.chunked, parts.pid_stream, if_pos rfl, carries_payload _ _ _ _ _ parts.carried,
      parse_pes_header ready args fits, pts_of_time args.timeUs nonnegative noOverflow, pes_packet_length args fits,
      stream_id_same packer ready args tables tabled]

theorem private_call_sized : ([0x01, 0x02, 0x03] : Bytes).length < 2 ^ 31 := by decide

def privateCall : Args := ⟨true, [0x01, 0x02, 0x03], 3, [0x11, 0xff], 0, 1000000, 0, private_call_sized⟩

theorem packetize_round_trip_private :
    ∃ output final, packetize (start (construct true false)) privateCall = some (output, final) ∧
      demux kPidAudio 2 output = some ⟨0xc0, 14, 14, 90000, [0x11, 0xff], [0x01, 0x02, 0x03]⟩ := by
  obtain ⟨output, final, done, _, _, read⟩ := packetize_round_trip _ privateCall
    (Reachable.start _ (Reachable.construct true false)) (by decide) (by decide) (by decide)
  exact ⟨output, final, done, read⟩

-- Private data is told apart from stuffing by nothing on the wire, the product with 9
-- leaves the 64 bits, and codec data behind a start code of three bytes fails a CHECK.
theorem packetize_round_trip_fails :
    ((packetize (construct false false) ⟨false, [0x01], 0, [0x11, 0xff], 0, 0, 0, by decide⟩).map Prod.fst =
      (packetize (construct false false) ⟨false, [0x01], 0, [0x11], 1, 0, 0, by decide⟩).map Prod.fst ∧
      (packetize (construct false false) ⟨false, [0x01], 0, [0x11], 1, 0, 0, by decide⟩).isSome = true) ∧
    ((packetize (construct false false) ⟨false, [0x01], 0, [], 0, 2 ^ 62, 0, by decide⟩).bind fun result =>
      (demux kPidVideo 0 result.1).map Pes.pts) = some (2 ^ 62 / 100 % 2 ^ 33) ∧
    2 ^ 62 / 100 % 2 ^ 33 ≠ 2 ^ 62 * 9 / 100 % 2 ^ 33 ∧
    packetize (storeCsd (construct false false) [0, 0, 1, 0x67, 0x42, 0, 0x1f])
      ⟨false, [0x01], 1, [], 0, 0, 0, by decide⟩ = none := by
  decide +kernel

end Droidlogic.Ts
