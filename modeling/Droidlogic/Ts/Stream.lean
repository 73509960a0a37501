import Droidlogic.Ts.Demux

set_option autoImplicit false

namespace Droidlogic.Ts

open Droidlogic.Lib

def streamCounter (packer : TSPacker) (isAudio : Bool) : Fin 16 :=
  if isAudio then packer.mAudioContinuityCounter else packer.mVideoContinuityCounter

def setStreamCounter (packer : TSPacker) (isAudio : Bool) (counter : Fin 16) : TSPacker :=
  if isAudio then { packer with mAudioContinuityCounter := counter }
  else { packer with mVideoContinuityCounter := counter }

@[simp] theorem stream_counter_set (packer : TSPacker) (isAudio : Bool) (counter : Fin 16) :
    streamCounter (setStreamCounter packer isAudio counter) isAudio = counter := by
  cases isAudio <;> rfl

theorem stream_counter_set_other (packer : TSPacker) (isAudio other : Bool) (counter : Fin 16)
    (different : other ≠ isAudio) :
    streamCounter (setStreamCounter packer isAudio counter) other = streamCounter packer other := by
  cases isAudio <;> cases other <;> first | rfl | exact absurd rfl different

@[simp] theorem set_stream_counter_twice (packer : TSPacker) (isAudio : Bool) (first second : Fin 16) :
    setStreamCounter (setStreamCounter packer isAudio first) isAudio second = setStreamCounter packer isAudio second := by
  cases isAudio <;> rfl

@[simp] theorem set_stream_counter_same (packer : TSPacker) (isAudio : Bool) :
    setStreamCounter packer isAudio (streamCounter packer isAudio) = packer := by
  cases isAudio <;> rfl

@[simp] theorem set_stream_counter_pcm (packer : TSPacker) (isAudio : Bool) (counter : Fin 16) :
    (setStreamCounter packer isAudio counter).mIsPcmAudio = packer.mIsPcmAudio := by
  cases isAudio <;> rfl

theorem increment_continuity_counter (packer : TSPacker) (isAudio : Bool) :
    incrementContinuityCounter packer isAudio =
      (streamCounter packer isAudio,
        setStreamCounter packer isAudio (stepCounter (streamCounter packer isAudio))) := by
  cases isAudio <;> rfl

-- The packets carry the contents, numbered one by one from the first counter;
-- the last counter is the one behind them.
inductive Carries (isAudio : Bool) : Fin 16 → List Bytes → Bytes → Fin 16 → Prop
  | nil (counter : Fin 16) : Carries isAudio counter [] [] counter
  | cons (counter last : Fin 16) (packet content : Bytes) (packets : List Bytes) (contents : Bytes) :
      PayloadPacket (streamPid isAudio) counter content packet → Carries isAudio (stepCounter counter) packets contents last →
      Carries isAudio counter (packet :: packets) (content ++ contents) last

theorem carries_each (isAudio : Bool) (first last : Fin 16) (packets : List Bytes) (contents : Bytes)
    (carried : Carries isAudio first packets contents last) :
    ∀ packet ∈ packets, ∃ counter content, PayloadPacket (streamPid isAudio) counter content packet := by
  induction carried with
  | nil => simp
  | cons counter last packet content packets contents one _ ih =>
      intro other member
      rcases List.mem_cons.mp member with rfl | later
      · exact ⟨counter, content, one⟩
      · exact ih other later

theorem carries_payload (isAudio : Bool) (first last : Fin 16) (packets : List Bytes) (contents : Bytes)
    (carried : Carries isAudio first packets contents last) : packets.flatMap payloadOf = contents := by
  induction carried with
  | nil => rfl
  | cons counter last packet content packets contents one _ ih => rw [List.flatMap_cons, one.payload, ih]

theorem payload_loop_some (isAudio : Bool) (fuel : Nat) (rest : Bytes) (packer : TSPacker)
    (enough : rest.length ≤ fuel) :
    ∃ packets last, payloadLoop isAudio fuel rest packer = some (packets, setStreamCounter packer isAudio last) ∧
      Carries isAudio (streamCounter packer isAudio) packets rest last ∧
      packets.length = (rest.length + 183) / 184 := by
  induction fuel generalizing rest packer with
  | zero =>
      have empty : rest = [] := List.length_eq_zero_iff.mp (by omega)
      subst empty
      exact ⟨[], streamCounter packer isAudio, by simp [payloadLoop], Carries.nil _, by simp⟩
  | succ fuel ih =>
      by_cases empty : rest = []
      · subst empty
        exact ⟨[], streamCounter packer isAudio, by simp [payloadLoop], Carries.nil _, by simp⟩
      · have some_left : 0 < rest.length := List.length_pos_iff.mpr empty
        have copied : (rest.take (min rest.length 184)).length = min rest.length 184 := by
          rw [List.length_take]
          omega
        obtain ⟨packet, written, read⟩ := stream_packet_read isAudio 0x00 (184 - min rest.length 184)
          (streamCounter packer isAudio) (rest.take (min rest.length 184)) (.inr rfl) (by omega)
        obtain ⟨packets, last, loop, carried, count⟩ := ih (rest.drop (min rest.length 184))
          (setStreamCounter packer isAudio (stepCounter (streamCounter packer isAudio)))
          (by rw [List.length_drop]; omega)
        rw [stream_counter_set] at carried
        refine ⟨packet :: packets, last, ?_, ?_, ?_⟩
        · simp only [payloadLoop, if_neg empty, increment_continuity_counter, written, loop, set_stream_counter_twice]
        · have whole := Carries.cons _ last packet _ packets _ read carried
          rwa [List.take_append_drop] at whole
        · rw [List.length_cons, count, List.length_drop]
          omega

theorem pts_bytes_length (pts : Nat) : (ptsBytes pts).length = 5 := rfl

def PesFits (args : Args) : Prop := 14 + args.numStuffingBytes + privateSize args ≤ 184

instance (args : Args) : Decidable (PesFits args) := inferInstanceAs (Decidable (_ ≤ _))

theorem pes_header_length (packer : TSPacker) (args : Args) :
    (pesHeader packer args).length = 14 + args.numStuffingBytes + privateSize args := by
  by_cases absent : args.privateData = []
  · simp only [pesHeader, privateSize, absent, if_true, List.length_append, List.length_cons, List.length_nil,
      List.length_replicate, pts_bytes_length]
    omega
  · simp only [pesHeader, privateSize, absent, if_false, List.length_append, List.length_cons, List.length_nil,
      List.length_replicate, pts_bytes_length]
    omega

def firstCopy (args : Args) : Nat := min args.buffer.length (184 - 14 - args.numStuffingBytes - privateSize args)

theorem emit_stream_some (packer : TSPacker) (args : Args) (fits : PesFits args) :
    ∃ packets last, emitStream packer args = some (packets, setStreamCounter packer args.isAudio last) ∧
      Carries args.isAudio (streamCounter packer args.isAudio) packets (pesHeader packer args ++ args.buffer) last ∧
      packets.length = 1 + (args.buffer.length - firstCopy args + 183) / 184 := by
  have header := pes_header_length packer args
  have copied : (args.buffer.take (firstCopy args)).length = firstCopy args := by
    rw [List.length_take, firstCopy]
    omega
  unfold PesFits at fits
  obtain ⟨first, written, read⟩ := stream_packet_read args.isAudio 0x40
    (184 - 14 - args.numStuffingBytes - privateSize args - firstCopy args) (streamCounter packer args.isAudio)
    (pesHeader packer args ++ args.buffer.take (firstCopy args)) (.inl rfl)
    (by rw [List.length_append, header, copied, firstCopy]; omega)
  obtain ⟨packets, last, loop, carried, count⟩ := payload_loop_some args.isAudio (args.buffer.length - firstCopy args)
    (args.buffer.drop (firstCopy args))
    (setStreamCounter packer args.isAudio (stepCounter (streamCounter packer args.isAudio)))
    (Nat.le_of_eq List.length_drop)
  rw [stream_counter_set] at carried
  rw [firstCopy] at written loop
  refine ⟨first :: packets, last, ?_, ?_, ?_⟩
  · simp only [emitStream, increment_continuity_counter, written, loop, set_stream_counter_twice]
  · have whole := Carries.cons _ last first _ packets _ read carried
    rwa [List.append_assoc, List.take_append_drop] at whole
  · rw [List.length_cons, count, List.length_drop]
    omega

theorem num_ts_packets (args : Args) (fits : PesFits args) :
    numTSPackets args = 1 + (args.buffer.length - firstCopy args + 183) / 184 +
      (if emitPatAndPmt args.flags then 2 else 0) + (if emitPcr args.flags then 1 else 0) := by
  unfold PesFits at fits
  have same : min args.buffer.length (184 - (14 + args.numStuffingBytes + privateSize args)) = firstCopy args := by
    rw [firstCopy]
    omega
  have last : (if (args.buffer.length - firstCopy args) / 184 = 0 ∧
        0 < args.buffer.length - firstCopy args - (args.buffer.length - firstCopy args) / 184 * 184 then 1
      else if 0 < (args.buffer.length - firstCopy args) / 184 ∧
        184 < args.buffer.length - firstCopy args - (args.buffer.length - firstCopy args) / 184 * 184 + 184 then 1
      else 0) = (args.buffer.length - firstCopy args + 183) / 184 - (args.buffer.length - firstCopy args) / 184 := by
    split
    · omega
    · split <;> omega
  simp only [numTSPackets, same, last]
  omega

end Droidlogic.Ts
