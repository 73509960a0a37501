import Droidlogic.Ts.Stream

set_option autoImplicit false

namespace Droidlogic.Ts

open Droidlogic.Lib

def tablePid (pid : Nat) : Prop := pid = 0 ∨ pid = kPidPmt

theorem stuffed_some (bytes packet : Bytes) (written : stuffed bytes = some packet) :
    bytes.length ≤ 188 ∧ packet = bytes ++ List.replicate (188 - bytes.length) 0xff := by
  by_cases room : bytes.length ≤ 188
  · rw [stuffed, if_pos room, Option.some.injEq] at written
    exact ⟨room, written.symm⟩
  · simp [stuffed, room] at written

theorem table_packet_read (pid : Nat) (counter : Fin 16) (content packet : Bytes) (table : tablePid pid)
    (written : stuffed ([0x47, .ofNat (0x40 ||| pid >>> 8), .ofNat (pid &&& 0xff),
      .ofNat (0x10 ||| counter.val), 0x00] ++ content) = some packet) :
    PayloadPacket pid counter (0x00 :: (content ++ List.replicate (183 - content.length) 0xff)) packet := by
  obtain ⟨room, rfl⟩ := stuffed_some _ _ written
  have small := counter.isLt
  have pidBytes : (UInt8.ofNat (0x40 ||| pid >>> 8)).toNat % 32 * 256 + (UInt8.ofNat (pid &&& 0xff)).toNat = pid := by
    rcases table with rfl | rfl <;> decide
  simp only [List.length_append, List.length_cons, List.length_nil] at room
  constructor
  · simp only [List.length_append, List.length_cons, List.length_nil, List.length_replicate]
    omega
  · rfl
  · exact pidBytes
  · simp only [List.cons_append, counterOf, control_plain]
    omega
  · simp only [List.cons_append, carriesPayload, control_plain, decide_eq_true_eq]
    omega
  · have left : 188 - (0 + 1 + 1 + 1 + 1 + 1 + content.length) = 183 - content.length := by omega
    simp only [List.cons_append, List.nil_append, List.length_cons, payloadOf, control_plain]
    rw [if_neg (by omega), if_pos (by omega)]
    simp only [List.cons.injEq, true_and]
    congr 2
    omega

theorem head_finalize_counters (packer ready : TSPacker) (finalized : headFinalize packer = some ready) :
    ready = { packer with mDescriptors := ready.mDescriptors, mheadFinalize := true } := by
  by_cases done : packer.mheadFinalize = true
  · rw [headFinalize, if_pos done, Option.some.injEq] at finalized
    subst ready
    rw [← done]
  · rw [headFinalize, if_neg done] at finalized
    cases codec : codecBytes packer.mCSD with
    | none => simp [codec] at finalized
    | some bytes =>
        simp only [codec, Option.some.injEq] at finalized
        subst ready
        rfl

theorem emit_tables_some (packer ready : TSPacker) (tables : List Bytes)
    (emitted : emitTables packer = some (tables, ready)) :
    headFinalize (counted packer) = some ready ∧
      ∃ pat pmt, patPacket ready.mPATContinuityCounter = some pat ∧ pmtPacket ready = some pmt ∧ tables = [pat, pmt] := by
  cases finalized : headFinalize (counted packer) with
  | none => simp [emitTables, finalized] at emitted
  | some state =>
      simp only [emitTables, finalized] at emitted
      cases patWritten : patPacket state.mPATContinuityCounter with
      | none => simp [patWritten] at emitted
      | some pat =>
          cases pmtWritten : pmtPacket state with
          | none => simp [patWritten, pmtWritten] at emitted
          | some pmt =>
              simp only [patWritten, pmtWritten, Option.some.injEq, Prod.mk.injEq] at emitted
              obtain ⟨rfl, rfl⟩ := emitted
              exact ⟨rfl, pat, pmt, patWritten, pmtWritten, rfl⟩

theorem pat_packet_read (counter : Fin 16) (packet : Bytes) (written : patPacket counter = some packet) :
    ∃ content, PayloadPacket 0 counter content packet :=
  ⟨_, table_packet_read 0 counter (patSection ++ be32 (crc32 patSection)) packet (.inl rfl) written⟩

theorem pmt_packet_read (packer : TSPacker) (packet : Bytes) (written : pmtPacket packer = some packet) :
    ∃ content, pmtSection packer = some content ∧
      PayloadPacket kPidPmt packer.mPMTContinuityCounter
        (0x00 :: (content ++ List.replicate (183 - content.length) 0xff)) packet := by
  cases built : pmtSection packer with
  | none => simp [pmtPacket, built] at written
  | some content =>
      simp only [pmtPacket, built] at written
      exact ⟨content, rfl, table_packet_read kPidPmt _ content packet (.inr rfl) written⟩

structure Written (packer : TSPacker) (args : Args) (packets : List Bytes) (final : TSPacker)
    (tables stream : List Bytes) (ready : TSPacker) (last : Fin 16) : Prop where
  fits : PesFits args
  tabled : tablesFor packer args = some (tables, ready)
  streamed : emitStream ready args = some (stream, final)
  carried : Carries args.isAudio (streamCounter ready args.isAudio) stream (pesHeader ready args ++ args.buffer) last
  ended : final = setStreamCounter ready args.isAudio last
  parts : packets = tables ++ pcrFor args ++ stream

theorem packetize_packets_some (packer : TSPacker) (args : Args) (tables : List Bytes) (ready : TSPacker)
    (fits : PesFits args) (tabled : tablesFor packer args = some (tables, ready)) :
    ∃ packets final stream last, packetizePackets packer args = some (packets, final) ∧
      Written packer args packets final tables stream ready last ∧ packets.length = numTSPackets args := by
  obtain ⟨stream, last, streamed, carried, count⟩ := emit_stream_some ready args fits
  have tableCount : tables.length = if emitPatAndPmt args.flags then 2 else 0 := by
    by_cases asked : emitPatAndPmt args.flags = true
    · rw [tablesFor, if_pos asked] at tabled
      obtain ⟨_, pat, pmt, _, _, rfl⟩ := emit_tables_some packer ready tables tabled
      rw [if_pos asked]
      rfl
    · rw [tablesFor, if_neg asked, Option.some.injEq, Prod.mk.injEq] at tabled
      rw [if_neg asked, ← tabled.1]
      rfl
  have pcrCount : (pcrFor args).length = if emitPcr args.flags then 1 else 0 := by
    unfold pcrFor
    split <;> rfl
  refine ⟨_, _, stream, last, ?_, ⟨fits, tabled, streamed, carried, rfl, rfl⟩, ?_⟩
  · unfold PesFits at fits
    simp only [packetizePackets, if_pos fits, tabled, streamed]
  · rw [num_ts_packets args fits, List.length_append, List.length_append, tableCount, pcrCount, count]
    omega

-- The packet count computed up front is the number written.
theorem packetize_some (packer : TSPacker) (args : Args) (tables : List Bytes) (ready : TSPacker)
    (fits : PesFits args) (tabled : tablesFor packer args = some (tables, ready)) :
    ∃ packets final stream last, packetize packer args = some (packets.flatten, final) ∧
      Written packer args packets final tables stream ready last ∧ packets.length = numTSPackets args := by
  obtain ⟨packets, final, stream, last, written, parts, count⟩ := packetize_packets_some packer args tables ready fits tabled
  exact ⟨packets, final, stream, last, by simp only [packetize, written, if_pos count], parts, count⟩

theorem packetize_written (packer final : TSPacker) (args : Args) (output : Bytes)
    (done : packetize packer args = some (output, final)) :
    ∃ packets tables stream ready last, output = packets.flatten ∧
      Written packer args packets final tables stream ready last := by
  have fits : PesFits args := by
    by_cases fits : PesFits args
    · exact fits
    · rw [PesFits] at fits
      simp [packetize, packetizePackets, fits] at done
  cases tabled : tablesFor packer args with
  | none =>
      have unwritten : packetizePackets packer args = none := by
        rw [PesFits] at fits
        simp only [packetizePackets, if_pos fits, tabled]
      simp [packetize, unwritten] at done
  | some result =>
      obtain ⟨tables, ready⟩ := result
      obtain ⟨packets, last, stream, counter, written, parts, _⟩ := packetize_some packer args tables ready fits tabled
      rw [done, Option.some.injEq, Prod.mk.injEq] at written
      obtain ⟨rfl, rfl⟩ := written
      exact ⟨packets, tables, stream, ready, counter, rfl, parts⟩

theorem tables_for_some (packer ready : TSPacker) (args : Args) (tables : List Bytes)
    (tabled : tablesFor packer args = some (tables, ready)) :
    (emitPatAndPmt args.flags = false ∧ tables = [] ∧ ready = packer) ∨
    (emitPatAndPmt args.flags = true ∧ headFinalize (counted packer) = some ready ∧
      ∃ pat pmt patContent pmtContent, tables = [pat, pmt] ∧ pmtSection ready = some pmtContent ∧
        PayloadPacket 0 ready.mPATContinuityCounter patContent pat ∧
        PayloadPacket kPidPmt ready.mPMTContinuityCounter
          (0x00 :: (pmtContent ++ List.replicate (183 - pmtContent.length) 0xff)) pmt) := by
  by_cases asked : emitPatAndPmt args.flags = true
  · rw [tablesFor, if_pos asked] at tabled
    obtain ⟨finalized, pat, pmt, patWritten, pmtWritten, rfl⟩ := emit_tables_some packer ready tables tabled
    obtain ⟨patContent, patRead⟩ := pat_packet_read _ pat patWritten
    obtain ⟨pmtContent, built, pmtRead⟩ := pmt_packet_read ready pmt pmtWritten
    exact .inr ⟨asked, finalized, pat, pmt, patContent, pmtContent, rfl, built, patRead, pmtRead⟩
  · rw [tablesFor, if_neg asked, Option.some.injEq, Prod.mk.injEq] at tabled
    exact .inl ⟨Bool.eq_false_iff.mpr asked, tabled.1.symm, tabled.2.symm⟩

theorem pcr_packet_read (nowUs : Int64) :
    (pcrPacket nowUs).length = 188 ∧ (pcrPacket nowUs).head? = some 0x47 ∧ pidOf (pcrPacket nowUs) = kPidPcr := by
  refine ⟨?_, rfl, rfl⟩
  simp only [pcrPacket, List.length_append, List.length_cons, List.length_nil, List.length_replicate]

theorem pid_packets_append (pid : Nat) (first second : List Bytes) :
    pidPackets pid (first ++ second) = pidPackets pid first ++ pidPackets pid second := List.filter_append _ _

theorem pid_packets_all (pid : Nat) (packets : List Bytes) (same : ∀ packet ∈ packets, pidOf packet = pid) :
    pidPackets pid packets = packets :=
  List.filter_eq_self.mpr fun packet member => by simp [same packet member]

theorem pid_packets_other (pid : Nat) (packets : List Bytes) (other : ∀ packet ∈ packets, pidOf packet ≠ pid) :
    pidPackets pid packets = [] :=
  List.filter_eq_nil_iff.mpr fun packet member => by simp [other packet member]

theorem stream_pid_table (isAudio : Bool) (pid : Nat) (table : tablePid pid) : streamPid isAudio ≠ pid := by
  rcases table with rfl | rfl <;> cases isAudio <;> decide

section
variable {packer ready final : TSPacker} {args : Args} {packets tables stream : List Bytes} {last : Fin 16}

theorem Written.stream_each (parts : Written packer args packets final tables stream ready last) :
    ∀ packet ∈ stream, packet.length = 188 ∧ packet.head? = some 0x47 ∧ pidOf packet = streamPid args.isAudio := by
  intro packet member
  obtain ⟨counter, content, read⟩ := carries_each _ _ _ _ _ parts.carried packet member
  exact ⟨read.size, read.sync, read.pid⟩

theorem Written.table_each (parts : Written packer args packets final tables stream ready last) :
    ∀ packet ∈ tables, packet.length = 188 ∧ packet.head? = some 0x47 ∧ tablePid (pidOf packet) := by
  intro packet member
  rcases tables_for_some packer ready args tables parts.tabled with
    ⟨_, rfl, _⟩ | ⟨_, _, pat, pmt, patContent, pmtContent, rfl, _, patRead, pmtRead⟩
  · simp at member
  · simp only [List.mem_cons, List.not_mem_nil, or_false] at member
    rcases member with rfl | rfl
    · exact ⟨patRead.size, patRead.sync, .inl patRead.pid⟩
    · exact ⟨pmtRead.size, pmtRead.sync, .inr pmtRead.pid⟩

theorem pcr_each (packet : Bytes) (member : packet ∈ pcrFor args) :
    packet.length = 188 ∧ packet.head? = some 0x47 ∧ pidOf packet = kPidPcr := by
  unfold pcrFor at member
  split at member
  · rw [List.mem_singleton.mp member]
    exact pcr_packet_read args.nowUs
  · simp at member

theorem Written.each (parts : Written packer args packets final tables stream ready last) :
    ∀ packet ∈ packets, packet.length = 188 ∧ packet.head? = some 0x47 := by
  intro packet member
  rw [parts.parts, List.mem_append, List.mem_append] at member
  rcases member with (inTables | inPcr) | inStream
  · exact ⟨(parts.table_each packet inTables).1, (parts.table_each packet inTables).2.1⟩
  · exact ⟨(pcr_each packet inPcr).1, (pcr_each packet inPcr).2.1⟩
  · exact ⟨(parts.stream_each packet inStream).1, (parts.stream_each packet inStream).2.1⟩

theorem Written.chunked (parts : Written packer args packets final tables stream ready last) :
    chunks 188 packets.flatten = packets :=
  chunks_flatten 188 packets (by omega) fun packet member => (parts.each packet member).1

theorem Written.pid_stream (parts : Written packer args packets final tables stream ready last) (isAudio : Bool) :
    pidPackets (streamPid isAudio) packets = if args.isAudio = isAudio then stream else [] := by
  have noTables : pidPackets (streamPid isAudio) tables = [] :=
    pid_packets_other _ _ fun packet member same => stream_pid_table isAudio _ (parts.table_each packet member).2.2 same.symm
  have noPcr : pidPackets (streamPid isAudio) (pcrFor args) = [] := by
    refine pid_packets_other _ _ fun packet member same => ?_
    rw [(pcr_each packet member).2.2] at same
    cases isAudio <;> simp [kPidPcr, streamPid, kPidAudio, kPidVideo] at same
  rw [parts.parts, pid_packets_append, pid_packets_append, noTables, noPcr, List.nil_append, List.nil_append]
  by_cases own : args.isAudio = isAudio
  · rw [if_pos own, ← own]
    exact pid_packets_all _ _ fun packet member => (parts.stream_each packet member).2.2
  · rw [if_neg own]
    refine pid_packets_other _ _ fun packet member same => own ?_
    rw [(parts.stream_each packet member).2.2] at same
    cases isAudio <;> cases audio : args.isAudio <;> simp_all [streamPid, kPidAudio, kPidVideo]

theorem Written.pid_table (parts : Written packer args packets final tables stream ready last) (pid : Nat)
    (table : tablePid pid) : pidPackets pid packets = pidPackets pid tables := by
  have noPcr : pidPackets pid (pcrFor args) = [] := by
    refine pid_packets_other _ _ fun packet member same => ?_
    rw [(pcr_each packet member).2.2] at same
    rcases table with rfl | rfl <;> simp [kPidPcr, kPidPmt] at same
  have noStream : pidPackets pid stream = [] := by
    refine pid_packets_other _ _ fun packet member same => ?_
    rw [(parts.stream_each packet member).2.2] at same
    exact stream_pid_table _ pid table same
  rw [parts.parts, pid_packets_append, pid_packets_append, noPcr, noStream, List.append_nil, List.append_nil]

end

end Droidlogic.Ts
