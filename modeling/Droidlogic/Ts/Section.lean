import Droidlogic.Ts.Output

set_option autoImplicit false

namespace Droidlogic.Ts

open Droidlogic.Lib

def descriptorsExact : Nat → Bytes → Bool
  | _, [] => true
  | fuel + 1, _ :: length :: rest =>
      decide (length.toNat ≤ rest.length) && descriptorsExact fuel (rest.drop length.toNat)
  | _, _ => false

def streamsExact : Nat → Bytes → Bool
  | _, [] => true
  | fuel + 1, _ :: _ :: _ :: high :: low :: rest =>
      let infoLength := high.toNat % 16 * 256 + low.toNat
      decide (infoLength ≤ rest.length) && descriptorsExact infoLength (rest.take infoLength) &&
        streamsExact fuel (rest.drop infoLength)
  | _, _ => false

-- Program number, version, section numbers, PCR PID, then the two loops.
def validLoops : Bytes → Bool
  | _ :: _ :: _ :: _ :: _ :: _ :: _ :: high :: low :: loops =>
      let infoLength := high.toNat % 16 * 256 + low.toNat
      decide (infoLength ≤ loops.length) && descriptorsExact infoLength (loops.take infoLength) &&
        streamsExact loops.length (loops.drop infoLength)
  | _ => false

def validSection : Bytes → Bool
  | tableId :: high :: low :: behind =>
      let sectionLength := high.toNat % 16 * 256 + low.toNat
      decide (tableId = 0x02) && decide (high.toNat / 64 = 2) && decide (4 ≤ sectionLength) &&
        decide (sectionLength ≤ behind.length) &&
        decide (crc32 (tableId :: high :: low :: behind.take sectionLength) = 0) &&
        validLoops (behind.take (sectionLength - 4))
  | _ => false

-- The payload of a packet that starts a section begins with a pointer to it.
def validPmt : Bytes → Bool
  | [] => false
  | pointer :: rest => validSection (rest.drop pointer.toNat)

theorem crc32_residue (bytes : Bytes) : crc32 (bytes ++ be32 (crc32 bytes)) = 0 := by
  rw [crc32, List.foldl_append]
  exact Crc.msb_residue 0x04C11DB7 (crc32 bytes)

theorem valid_section_read (sectionLength : Nat) (body checksum stuffing : Bytes) (four : checksum.length = 4)
    (whole : body.length + 4 = sectionLength) (small : sectionLength < 256)
    (residue : crc32 ([0x02, 0xb0, .ofNat sectionLength] ++ body ++ checksum) = 0) :
    validSection ([0x02, 0xb0, .ofNat sectionLength] ++ body ++ checksum ++ stuffing) = validLoops body := by
  have length : (0xb0 : UInt8).toNat % 16 * 256 + (UInt8.ofNat sectionLength).toNat = sectionLength := by
    have high : (0xb0 : UInt8).toNat % 16 = 0 := by decide
    rw [byte_nat _ small, high, Nat.zero_mul, Nat.zero_add]
  have content : (body ++ checksum ++ stuffing).take sectionLength = body ++ checksum := by
    apply List.take_left'
    rw [List.length_append, four, whole]
  have inner : (body ++ checksum ++ stuffing).take (sectionLength - 4) = body := by
    rw [List.append_assoc]
    apply List.take_left'
    omega
  have enough : sectionLength ≤ (body ++ checksum ++ stuffing).length := by
    rw [List.length_append, List.length_append, four]
    omega
  have atLeast : 4 ≤ sectionLength := by omega
  simp only [List.cons_append, List.nil_append] at residue
  simp only [List.cons_append, List.nil_append, validSection, length, content, inner, enough, atLeast, residue,
    decide_true, Bool.true_and, Bool.and_true]
  rfl

theorem pmt_head_small (body : Bytes) (small : body.length + 4 < 256) :
    pmtHead body = [0x02, 0xb0, .ofNat (body.length + 4)] ++ body := by
  have shift : (body.length + 4) >>> 8 = 0 := by
    rw [Nat.shiftRight_eq_div_pow]
    omega
  have mask : (body.length + 4) &&& 0xff = body.length + 4 := by
    rw [show 0xff = 2 ^ 8 - 1 by rfl, Nat.and_two_pow_sub_one_eq_mod]
    omega
  rw [pmtHead, shift, mask]
  rfl

theorem valid_pmt_section (body stuffing : Bytes) (small : body.length + 4 < 256) :
    validPmt (0x00 :: (pmtHead body ++ be32 (crc32 (pmtHead body)) ++ stuffing)) = validLoops body := by
  have residue := crc32_residue (pmtHead body)
  have four := be32_length (crc32 (pmtHead body))
  generalize be32 (crc32 (pmtHead body)) = checksum at residue four ⊢
  rw [pmt_head_small body small] at residue ⊢
  exact valid_section_read _ body checksum stuffing four rfl small residue

inductive Reachable : TSPacker → Prop
  | construct (hasAudio isPcmAudio : Bool) : Reachable (construct hasAudio isPcmAudio)
  | start (packer : TSPacker) : Reachable packer → Reachable (start packer)
  | storeCsd (packer : TSPacker) (csd : Bytes) : CsdOk csd → Reachable packer → Reachable (storeCsd packer csd)
  | packetize (packer final : TSPacker) (args : Args) (output : Bytes) : Reachable packer →
      packetize packer args = some (output, final) → Reachable final

-- headFinalize pushes the audio descriptor only for PCM, start() may drop PCM later.
def Described (packer : TSPacker) : Prop :=
  ∃ codec audio, codec.length = 3 ∧ packer.mDescriptors = avcDescriptor codec :: hrdDescriptor :: audio ∧
    (packer.mHasAudio = true → packer.mIsPcmAudio = true → audio = [lpcmDescriptor])

structure WellFormed (packer : TSPacker) : Prop where
  codec : ∀ csd, packer.mCSD.head? = some csd → CsdOk csd
  fresh : packer.mheadFinalize = false → packer.mDescriptors = []
  described : packer.mheadFinalize = true → Described packer

theorem codec_bytes_some (packer : TSPacker) (codec : ∀ csd, packer.mCSD.head? = some csd → CsdOk csd) :
    ∃ bytes, codecBytes packer.mCSD = some bytes ∧ bytes.length = 3 := by
  cases stored : packer.mCSD with
  | nil => exact ⟨_, rfl, rfl⟩
  | cons sps rest =>
      have ok : CsdOk sps := codec sps (by rw [stored]; rfl)
      refine ⟨(sps.drop 4).take 3, by rw [codecBytes, if_pos ok], ?_⟩
      have long := ok.2
      rw [List.length_take, List.length_drop]
      omega

theorem head_finalize_some (packer : TSPacker) (formed : WellFormed packer) :
    ∃ ready, headFinalize packer = some ready ∧ WellFormed ready ∧ Described ready := by
  by_cases done : packer.mheadFinalize = true
  · exact ⟨packer, by rw [headFinalize, if_pos done], formed, formed.described done⟩
  · obtain ⟨bytes, read, three⟩ := codec_bytes_some packer formed.codec
    have empty := formed.fresh (Bool.eq_false_iff.mpr done)
    refine ⟨_, by rw [headFinalize, if_neg done]; simp only [read, empty, List.nil_append]; rfl, ?_, ?_⟩
    · refine ⟨formed.codec, fun notDone => by simp at notDone, fun _ => ?_⟩
      exact ⟨bytes, _, three, rfl, fun hasAudio isPcm => by simp only at hasAudio isPcm; simp [hasAudio, isPcm]⟩
    · exact ⟨bytes, _, three, rfl, fun hasAudio isPcm => by simp only at hasAudio isPcm; simp [hasAudio, isPcm]⟩

theorem well_formed_counted (packer : TSPacker) (formed : WellFormed packer) : WellFormed (counted packer) :=
  ⟨formed.codec, formed.fresh, formed.described⟩

theorem well_formed_stream_counter (packer : TSPacker) (isAudio : Bool) (counter : Fin 16)
    (formed : WellFormed packer) : WellFormed (setStreamCounter packer isAudio counter) := by
  cases isAudio
  · exact ⟨formed.codec, formed.fresh, formed.described⟩
  · exact ⟨formed.codec, formed.fresh, formed.described⟩

theorem reachable_well_formed (packer : TSPacker) (reachable : Reachable packer) : WellFormed packer := by
  induction reachable with
  | construct hasAudio isPcmAudio =>
      exact ⟨fun csd stored => by simp [construct] at stored, fun _ => rfl, fun done => by simp [construct] at done⟩
  | start packer _ ih =>
      unfold start
      split
      · refine ⟨ih.codec, ih.fresh, fun done => ?_⟩
        obtain ⟨codec, audio, three, listed, _⟩ := ih.described done
        exact ⟨codec, audio, three, listed, fun _ isPcm => by simp at isPcm⟩
      · exact ih
  | storeCsd packer csd ok _ ih =>
      refine ⟨fun first stored => ?_, ih.fresh, ih.described⟩
      cases before : packer.mCSD with
      | nil =>
          simp only [storeCsd, before, List.nil_append, List.head?_cons, Option.some.injEq] at stored
          exact stored ▸ ok
      | cons sps rest =>
          simp only [storeCsd, before, List.cons_append, List.head?_cons, Option.some.injEq] at stored
          exact ih.codec first (by rw [before, ← stored]; rfl)
  | packetize packer final args output _ done ih =>
      obtain ⟨packets, tables, stream, ready, last, _, parts⟩ := packetize_written packer final args output done
      have formed : WellFormed ready := by
        rcases tables_for_some packer ready args tables parts.tabled with ⟨_, _, rfl⟩ | ⟨_, finalized, _⟩
        · exact ih
        · obtain ⟨state, finalizedToo, formed, _⟩ := head_finalize_some _ (well_formed_counted packer ih)
          rw [finalizedToo, Option.some.injEq] at finalized
          exact finalized ▸ formed
      exact parts.ended ▸ well_formed_stream_counter ready args.isAudio last formed

theorem es_info_video : esInfo 0x1b kPidVideo 10 = [0x1b, 0xf1, 0x00, 0xf0, 0x0a] := by decide

theorem es_info_audio (streamType : UInt8) : esInfo streamType kPidAudio 4 = [streamType, 0xf1, 0x10, 0xf0, 0x04] := by
  simp [esInfo, kPidAudio]

def videoEntry (profile constraint level : UInt8) : Bytes :=
  esInfo 0x1b kPidVideo 10 ++ avcDescriptor [profile, constraint, level] ++ hrdDescriptor

theorem valid_loops_video (profile constraint level : UInt8) (audio : Bytes) :
    validLoops (pmtBody (videoEntry profile constraint level) audio) = streamsExact (audio.length + 14) audio := by
  simp [videoEntry, es_info_video, pmtBody, avcDescriptor, hrdDescriptor, validLoops, streamsExact, descriptorsExact]

theorem pmt_body_length (profile constraint level : UInt8) (audio : Bytes) :
    (pmtBody (videoEntry profile constraint level) audio).length = 24 + audio.length := by
  simp [pmtBody, videoEntry, esInfo, avcDescriptor, hrdDescriptor]
  omega

theorem audio_info_some (packer : TSPacker) (described : Described packer) :
    ∃ audio, audioInfo packer = some audio ∧ audio.length ≤ 9 ∧
      (streamsExact (audio.length + 14) audio = true ↔ ¬ (packer.mHasAudio = true ∧ packer.mIsPcmAudio = false)) := by
  obtain ⟨codec, lpcm, _, listed, third⟩ := described
  cases hasAudio : packer.mHasAudio with
  | false => exact ⟨[], by simp [audioInfo, hasAudio], by simp, by simp [streamsExact]⟩
  | true =>
      cases isPcm : packer.mIsPcmAudio with
      | false =>
          -- Four bytes of descriptors are announced and none follows.
          refine ⟨esInfo 0x0f kPidAudio 4, by simp [audioInfo, hasAudio, isPcm], by simp [esInfo], ?_⟩
          simp [es_info_audio, streamsExact]
      | true =>
          refine ⟨esInfo 0x83 kPidAudio 4 ++ lpcmDescriptor,
            by simp [audioInfo, hasAudio, isPcm, listed, third hasAudio isPcm], by simp [esInfo, lpcmDescriptor], ?_⟩
          simp [es_info_audio, lpcmDescriptor, streamsExact, descriptorsExact]

theorem pmt_section_some (packer : TSPacker) (described : Described packer) :
    ∃ body, pmtSection packer = some (pmtHead body ++ be32 (crc32 (pmtHead body))) ∧ body.length ≤ 33 ∧
      (validLoops body = true ↔ ¬ (packer.mHasAudio = true ∧ packer.mIsPcmAudio = false)) := by
  obtain ⟨audio, announced, short, exact_⟩ := audio_info_some packer described
  obtain ⟨codec, lpcm, three, listed, _⟩ := described
  obtain ⟨profile, constraint, level, rfl⟩ := List.length_eq_three.mp three
  have video : videoInfo packer = some (videoEntry profile constraint level) := by simp [videoInfo, listed, videoEntry]
  refine ⟨pmtBody (videoEntry profile constraint level) audio, by simp only [pmtSection, video, announced], ?_, ?_⟩
  · rw [pmt_body_length]
    omega
  · rw [valid_loops_video]
    exact exact_

theorem stuffed_total (bytes : Bytes) (room : bytes.length ≤ 188) : ∃ packet, stuffed bytes = some packet :=
  ⟨_, by rw [stuffed, if_pos room]⟩

theorem pat_packet_some (counter : Fin 16) : ∃ pat, patPacket counter = some pat :=
  stuffed_total _ (by simp [patSection, be32_length])

theorem pmt_packet_some (packer : TSPacker) (described : Described packer) : ∃ pmt, pmtPacket packer = some pmt := by
  obtain ⟨body, built, short, _⟩ := pmt_section_some packer described
  simp only [pmtPacket, built]
  apply stuffed_total
  simp only [List.length_append, List.length_cons, List.length_nil, be32_length, pmt_head_small body (by omega)]
  omega

-- No CHECK fails on the tables of a reachable packer.
theorem tables_for_total (packer : TSPacker) (args : Args) (formed : WellFormed packer) :
    ∃ tables ready, tablesFor packer args = some (tables, ready) := by
  by_cases asked : emitPatAndPmt args.flags = true
  · obtain ⟨ready, finalized, _, described⟩ := head_finalize_some _ (well_formed_counted packer formed)
    obtain ⟨pat, patWritten⟩ := pat_packet_some ready.mPATContinuityCounter
    obtain ⟨pmt, pmtWritten⟩ := pmt_packet_some ready described
    exact ⟨[pat, pmt], ready, by simp only [tablesFor, if_pos asked, emitTables, finalized, patWritten, pmtWritten]⟩
  · exact ⟨[], packer, by rw [tablesFor, if_neg asked]⟩

theorem pmt_valid_iff (packer final : TSPacker) (args : Args) (output : Bytes) (reachable : Reachable packer)
    (asked : emitPatAndPmt args.flags = true) (emitted : packetize packer args = some (output, final)) :
    (∀ packet ∈ pidPackets kPidPmt (chunks 188 output), validPmt (payloadOf packet) = true) ↔
      ¬ (packer.mHasAudio = true ∧ packer.mIsPcmAudio = false) := by
  obtain ⟨packets, tables, stream, ready, last, rfl, parts⟩ := packetize_written packer final args output emitted
  rcases tables_for_some packer ready args tables parts.tabled with
    ⟨notAsked, _⟩ | ⟨_, finalized, pat, pmt, patContent, content, rfl, built, patRead, pmtRead⟩
  · simp [asked] at notAsked
  · have formed := well_formed_counted packer (reachable_well_formed packer reachable)
    obtain ⟨state, finalizedToo, _, described⟩ := head_finalize_some _ formed
    rw [finalizedToo, Option.some.injEq] at finalized
    subst state
    obtain ⟨body, builtToo, short, exact_⟩ := pmt_section_some ready described
    rw [builtToo, Option.some.injEq] at built
    have only : pidPackets kPidPmt packets = [pmt] := by
      rw [parts.pid_table kPidPmt (.inr rfl), pidPackets, List.filter_cons_of_neg (by rw [patRead.pid]; decide),
        List.filter_cons_of_pos (by rw [pmtRead.pid]; decide), List.filter_nil]
    have same := head_finalize_counters _ _ finalizedToo
    have audio : ready.mHasAudio = packer.mHasAudio := by rw [same]; rfl
    have pcm : ready.mIsPcmAudio = packer.mIsPcmAudio := by rw [same]; rfl
    rw [parts.chunked, only, ← audio, ← pcm, ← exact_, List.forall_mem_singleton, pmtRead.payload, ← built,
      valid_pmt_section body _ (by omega)]

def tableCall : Args := ⟨false, [0x01, 0x02, 0x03], 1, [], 0, 0, 0, by decide⟩

theorem pmt_valid_without_audio :
    ∃ output final, packetize (start (construct false false)) tableCall = some (output, final) ∧
      ((∀ packet ∈ pidPackets kPidPmt (chunks 188 output), validPmt (payloadOf packet) = true) ↔
        ¬ (false = true ∧ false = false)) := by
  have reachable := Reachable.start _ (Reachable.construct false false)
  obtain ⟨tables, ready, tabled⟩ := tables_for_total _ tableCall (reachable_well_formed _ reachable)
  obtain ⟨packets, final, _, _, emitted, _⟩ := packetize_some _ tableCall tables ready (by decide) tabled
  exact ⟨packets.flatten, final, emitted, pmt_valid_iff _ final tableCall _ reachable (by decide) emitted⟩

theorem pmt_invalid_with_aac :
    Reachable (start (construct true false)) ∧ emitPatAndPmt tableCall.flags = true ∧
      (packetize (start (construct true false)) tableCall).map (fun result : Bytes × TSPacker =>
        decide (∀ packet ∈ pidPackets kPidPmt (chunks 188 result.1), validPmt (payloadOf packet) = true)) = some false :=
  ⟨Reachable.start _ (Reachable.construct true false), by decide, by decide +kernel⟩

end Droidlogic.Ts
