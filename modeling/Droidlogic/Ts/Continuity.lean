import Droidlogic.Ts.Section

set_option autoImplicit false

namespace Droidlogic.Ts

open Droidlogic.Lib

def packetizeAll : TSPacker → List Args → Option (Bytes × TSPacker)
  | packer, [] => some ([], packer)
  | packer, args :: rest =>
      match packetize packer args with
      | none => none
      | some (output, next) =>
          match packetizeAll next rest with
          | none => none
          | some (outputs, final) => some (output ++ outputs, final)

theorem packetize_all_cons (packer final : TSPacker) (args : Args) (rest : List Args) (output : Bytes)
    (done : packetizeAll packer (args :: rest) = some (output, final)) :
    ∃ first next behind, packetize packer args = some (first, next) ∧
      packetizeAll next rest = some (behind, final) ∧ output = first ++ behind := by
  cases called : packetize packer args with
  | none => simp [packetizeAll, called] at done
  | some result =>
      obtain ⟨first, next⟩ := result
      cases later : packetizeAll next rest with
      | none => simp [packetizeAll, called, later] at done
      | some result =>
          obtain ⟨behind, last⟩ := result
          simp only [packetizeAll, called, later, Option.some.injEq, Prod.mk.injEq] at done
          obtain ⟨rfl, rfl⟩ := done
          exact ⟨first, next, behind, rfl, later, rfl⟩

theorem packetize_all_step (packer next final : TSPacker) (args : Args) (rest : List Args) (first behind : Bytes)
    (called : packetize packer args = some (first, next)) (later : packetizeAll next rest = some (behind, final)) :
    packetizeAll packer (args :: rest) = some (first ++ behind, final) := by
  simp only [packetizeAll, called, later]

-- The number the next packet of a PID gets: tables step their counter first.
def nextCounter (packer : TSPacker) (pid : Nat) : Fin 16 :=
  if pid = 0 then stepCounter packer.mPATContinuityCounter
  else if pid = kPidPmt then stepCounter packer.mPMTContinuityCounter
  else if pid = kPidVideo then packer.mVideoContinuityCounter
  else packer.mAudioContinuityCounter

def countedPid (pid : Nat) : Prop := tablePid pid ∨ ∃ isAudio, pid = streamPid isAudio

theorem next_counter_stream (packer : TSPacker) (isAudio : Bool) :
    nextCounter packer (streamPid isAudio) = streamCounter packer isAudio := by
  cases isAudio <;> rfl

theorem next_counter_table (packer : TSPacker) (isAudio : Bool) (counter : Fin 16) (pid : Nat) (table : tablePid pid) :
    nextCounter (setStreamCounter packer isAudio counter) pid = nextCounter packer pid := by
  rcases table with rfl | rfl <;> cases isAudio <;> rfl

def Numbered : Fin 16 → List Bytes → Fin 16 → Prop
  | first, [], last => first = last
  | first, packet :: rest, last =>
      counterOf packet = first.val ∧ carriesPayload packet = true ∧ Numbered (stepCounter first) rest last

theorem numbered_append (first middle last : Fin 16) (before behind : List Bytes)
    (beforeNumbered : Numbered first before middle) (behindNumbered : Numbered middle behind last) :
    Numbered first (before ++ behind) last := by
  induction before generalizing first with
  | nil => exact beforeNumbered ▸ behindNumbered
  | cons packet rest ih => exact ⟨beforeNumbered.1, beforeNumbered.2.1, ih _ beforeNumbered.2.2⟩

theorem step_counter_val (counter : Fin 16) : (stepCounter counter).val = (counter.val + 1) % 16 := by
  revert counter
  decide

theorem numbered_chain (first last : Fin 16) (packets : List Bytes) (numbered : Numbered first packets last) :
    List.IsChain (fun packet next => counterOf next = (counterOf packet + 1) % 16) packets := by
  induction packets generalizing first with
  | nil => exact .nil
  | cons packet rest ih =>
      cases rest with
      | nil => exact .singleton packet
      | cons next rest =>
          refine .cons_cons ?_ (ih _ numbered.2.2)
          rw [numbered.2.2.1, numbered.1, step_counter_val]

theorem numbered_payload (first last : Fin 16) (packets : List Bytes) (numbered : Numbered first packets last) :
    packets.filter carriesPayload = packets := by
  induction packets generalizing first with
  | nil => rfl
  | cons packet rest ih => rw [List.filter_cons_of_pos numbered.2.1, ih _ numbered.2.2]

theorem carries_numbered (isAudio : Bool) (first last : Fin 16) (packets : List Bytes) (contents : Bytes)
    (carried : Carries isAudio first packets contents last) : Numbered first packets last := by
  induction carried with
  | nil => rfl
  | cons counter last packet content packets contents one _ ih => exact ⟨one.count, one.carries, ih⟩

section
variable {packer ready final : TSPacker} {args : Args} {packets tables stream : List Bytes} {last : Fin 16}

theorem Written.ready_counter (parts : Written packer args packets final tables stream ready last) (isAudio : Bool) :
    streamCounter ready isAudio = streamCounter packer isAudio := by
  rcases tables_for_some packer ready args tables parts.tabled with ⟨_, _, rfl⟩ | ⟨_, finalized, _⟩
  · rfl
  · rw [head_finalize_counters _ _ finalized]
    cases isAudio <;> rfl

theorem Written.ready_pcm (parts : Written packer args packets final tables stream ready last) :
    ready.mIsPcmAudio = packer.mIsPcmAudio := by
  rcases tables_for_some packer ready args tables parts.tabled with ⟨_, _, rfl⟩ | ⟨_, finalized, _⟩
  · rfl
  · rw [head_finalize_counters _ _ finalized]
    rfl

theorem Written.table_numbered (parts : Written packer args packets final tables stream ready last) (pid : Nat)
    (table : tablePid pid) : Numbered (nextCounter packer pid) (pidPackets pid tables) (nextCounter ready pid) := by
  rcases tables_for_some packer ready args tables parts.tabled with
    ⟨_, rfl, rfl⟩ | ⟨_, finalized, pat, pmt, _, _, rfl, _, patRead, pmtRead⟩
  · rfl
  · have same := head_finalize_counters _ _ finalized
    have patCounter : ready.mPATContinuityCounter = stepCounter packer.mPATContinuityCounter := by rw [same]; rfl
    have pmtCounter : ready.mPMTContinuityCounter = stepCounter packer.mPMTContinuityCounter := by rw [same]; rfl
    rcases table with rfl | rfl
    · rw [pidPackets, List.filter_cons_of_pos (by rw [patRead.pid]; decide),
        List.filter_cons_of_neg (by rw [pmtRead.pid]; decide), List.filter_nil]
      exact ⟨by rw [patRead.count, patCounter]; rfl, patRead.carries, by rw [nextCounter, nextCounter, patCounter]; rfl⟩
    · rw [pidPackets, List.filter_cons_of_neg (by rw [patRead.pid]; decide),
        List.filter_cons_of_pos (by rw [pmtRead.pid]; decide), List.filter_nil]
      exact ⟨by rw [pmtRead.count, pmtCounter]; rfl, pmtRead.carries, by rw [nextCounter, nextCounter, pmtCounter]; rfl⟩

theorem Written.numbered (parts : Written packer args packets final tables stream ready last) (pid : Nat)
    (own : countedPid pid) : Numbered (nextCounter packer pid) (pidPackets pid packets) (nextCounter final pid) := by
  rcases own with table | ⟨isAudio, rfl⟩
  · rw [parts.pid_table pid table, parts.ended, next_counter_table _ _ _ _ table]
    exact parts.table_numbered pid table
  · rw [parts.pid_stream, next_counter_stream, next_counter_stream, ← parts.ready_counter isAudio, parts.ended]
    by_cases same : args.isAudio = isAudio
    · rw [if_pos same, ← same, stream_counter_set]
      exact carries_numbered _ _ _ _ _ parts.carried
    · rw [if_neg same, stream_counter_set_other _ _ _ _ (Ne.symm same)]
      rfl

end

theorem packetize_all_sized (packer final : TSPacker) (calls : List Args) (output : Bytes)
    (done : packetizeAll packer calls = some (output, final)) :
    ∃ packets : List Bytes, output = packets.flatten ∧ ∀ packet ∈ packets, packet.length = 188 := by
  induction calls generalizing packer output with
  | nil =>
      simp only [packetizeAll, Option.some.injEq, Prod.mk.injEq] at done
      exact ⟨[], done.1.symm, by simp⟩
  | cons args rest ih =>
      obtain ⟨first, next, behind, called, later, rfl⟩ := packetize_all_cons packer final args rest output done
      obtain ⟨packets, _, _, _, _, rfl, parts⟩ := packetize_written packer next args first called
      obtain ⟨laterPackets, rfl, sized⟩ := ih next behind later
      refine ⟨packets ++ laterPackets, by rw [List.flatten_append], fun packet member => ?_⟩
      rcases List.mem_append.mp member with here | there
      · exact (parts.each packet here).1
      · exact sized packet there

theorem packetize_all_chunks (packer next final : TSPacker) (args : Args) (rest : List Args) (first behind : Bytes)
    (called : packetize packer args = some (first, next)) (later : packetizeAll next rest = some (behind, final)) :
    chunks 188 (first ++ behind) = chunks 188 first ++ chunks 188 behind := by
  obtain ⟨packets, _, _, _, _, rfl, parts⟩ := packetize_written packer next args first called
  obtain ⟨laterPackets, rfl, sized⟩ := packetize_all_sized next final rest behind later
  exact chunks_append 188 packets laterPackets (by omega) (fun packet member => (parts.each packet member).1) sized

theorem packetize_all_numbered (packer final : TSPacker) (calls : List Args) (output : Bytes) (pid : Nat)
    (own : countedPid pid) (done : packetizeAll packer calls = some (output, final)) :
    Numbered (nextCounter packer pid) (pidPackets pid (chunks 188 output)) (nextCounter final pid) := by
  induction calls generalizing packer output with
  | nil =>
      simp only [packetizeAll, Option.some.injEq, Prod.mk.injEq] at done
      obtain ⟨rfl, rfl⟩ := done
      rfl
  | cons args rest ih =>
      obtain ⟨first, next, behind, called, later, rfl⟩ := packetize_all_cons packer final args rest output done
      rw [packetize_all_chunks packer next final args rest first behind called later, pid_packets_append]
      obtain ⟨packets, tables, stream, ready, last, rfl, parts⟩ := packetize_written packer next args first called
      rw [parts.chunked]
      exact numbered_append _ _ _ _ _ (parts.numbered pid own) (ih next behind later)

-- A call reduced to what the packets of one PID are made from.
def streamOnly (args : Args) : Args := { args with flags := 0, nowUs := 0 }

@[simp] theorem stream_only_audio (args : Args) : (streamOnly args).isAudio = args.isAudio := rfl
@[simp] theorem stream_only_buffer (args : Args) : (streamOnly args).buffer = args.buffer := rfl
@[simp] theorem stream_only_stuffing (args : Args) : (streamOnly args).numStuffingBytes = args.numStuffingBytes := rfl
@[simp] theorem stream_only_private (args : Args) : privateSize (streamOnly args) = privateSize args := rfl

theorem stream_only_tables (packer : TSPacker) (args : Args) : tablesFor packer (streamOnly args) = some ([], packer) := by
  have notAsked : ¬ emitPatAndPmt (streamOnly args).flags = true := by simp [streamOnly, emitPatAndPmt]
  rw [tablesFor, if_neg notAsked]

def streamPart (isAudio : Bool) (args : Args) : Option Args :=
  if args.isAudio = isAudio then some (streamOnly args) else none

def tableOnly : Args := ⟨false, [], 1, [], 0, 0, 0, by decide⟩

def tablePart (args : Args) : Option Args := if emitPatAndPmt args.flags then some tableOnly else none

theorem payload_loop_agrees (isAudio : Bool) (fuel : Nat) (rest : Bytes) (packer other final : TSPacker)
    (packets : List Bytes) (same : streamCounter other isAudio = streamCounter packer isAudio)
    (looped : payloadLoop isAudio fuel rest packer = some (packets, final)) :
    payloadLoop isAudio fuel rest other =
      some (packets, setStreamCounter other isAudio (streamCounter final isAudio)) := by
  induction fuel generalizing rest packer other packets with
  | zero =>
      simp only [payloadLoop, Option.some.injEq, Prod.mk.injEq] at looped ⊢
      obtain ⟨rfl, rfl⟩ := looped
      rw [← same, set_stream_counter_same]
      exact ⟨rfl, rfl⟩
  | succ fuel ih =>
      by_cases empty : rest = []
      · simp only [payloadLoop, if_pos empty, Option.some.injEq, Prod.mk.injEq] at looped ⊢
        obtain ⟨rfl, rfl⟩ := looped
        rw [← same, set_stream_counter_same]
        exact ⟨rfl, rfl⟩
      · simp only [payloadLoop, if_neg empty, increment_continuity_counter, same] at looped ⊢
        cases written : streamPacket 0x00 (streamPid isAudio) (streamCounter packer isAudio) (184 - min rest.length 184)
            (rest.take (min rest.length 184)) with
        | none => simp [written] at looped
        | some packet =>
            simp only [written] at looped ⊢
            cases tail : payloadLoop isAudio fuel (rest.drop (min rest.length 184))
                (setStreamCounter packer isAudio (stepCounter (streamCounter packer isAudio))) with
            | none => simp [tail] at looped
            | some result =>
                obtain ⟨behind, last⟩ := result
                simp only [tail, Option.some.injEq, Prod.mk.injEq] at looped
                obtain ⟨rfl, rfl⟩ := looped
                have tailToo := ih _ _ (setStreamCounter other isAudio (stepCounter (streamCounter packer isAudio)))
                  behind (by rw [stream_counter_set, stream_counter_set]) tail
                simp only [tailToo, set_stream_counter_twice]

theorem emit_stream_agrees (packer other final : TSPacker) (args : Args) (packets : List Bytes)
    (same : streamCounter other args.isAudio = streamCounter packer args.isAudio)
    (pcm : other.mIsPcmAudio = packer.mIsPcmAudio) (emitted : emitStream packer args = some (packets, final)) :
    emitStream other (streamOnly args) =
      some (packets, setStreamCounter other args.isAudio (streamCounter final args.isAudio)) := by
  have id : streamId other args.isAudio = streamId packer args.isAudio := by rw [streamId, streamId, pcm]
  have header : pesHeader other (streamOnly args) = pesHeader packer args := by
    rw [pesHeader, pesHeader, ← id]
    rfl
  simp only [emitStream, increment_continuity_counter, stream_only_audio, stream_only_buffer, stream_only_stuffing,
    stream_only_private, same, header] at emitted ⊢
  cases written : streamPacket 0x40 (streamPid args.isAudio) (streamCounter packer args.isAudio)
      (184 - 14 - args.numStuffingBytes - privateSize args -
        min args.buffer.length (184 - 14 - args.numStuffingBytes - privateSize args))
      (pesHeader packer args ++
        args.buffer.take (min args.buffer.length (184 - 14 - args.numStuffingBytes - privateSize args))) with
  | none => simp [written] at emitted
  | some first =>
      simp only [written] at emitted ⊢
      cases looped : payloadLoop args.isAudio
          (args.buffer.length - min args.buffer.length (184 - 14 - args.numStuffingBytes - privateSize args))
          (args.buffer.drop (min args.buffer.length (184 - 14 - args.numStuffingBytes - privateSize args)))
          (setStreamCounter packer args.isAudio (stepCounter (streamCounter packer args.isAudio))) with
      | none => simp [looped] at emitted
      | some result =>
          obtain ⟨behind, last⟩ := result
          simp only [looped, Option.some.injEq, Prod.mk.injEq] at emitted
          obtain ⟨rfl, rfl⟩ := emitted
          have loopedToo := payload_loop_agrees _ _ _ _
            (setStreamCounter other args.isAudio (stepCounter (streamCounter packer args.isAudio))) _ _
            (by rw [stream_counter_set, stream_counter_set]) looped
          simp only [loopedToo, set_stream_counter_twice]

-- Only the stream's own counter and the audio mode reach its packets.
theorem stream_unaffected (isAudio : Bool) (packer other final : TSPacker) (calls : List Args) (output : Bytes)
    (same : streamCounter other isAudio = streamCounter packer isAudio) (pcm : other.mIsPcmAudio = packer.mIsPcmAudio)
    (done : packetizeAll packer calls = some (output, final)) :
    ∃ own last, packetizeAll other (calls.filterMap (streamPart isAudio)) = some (own, last) ∧
      pidPackets (streamPid isAudio) (chunks 188 own) = pidPackets (streamPid isAudio) (chunks 188 output) := by
  induction calls generalizing packer other output with
  | nil =>
      simp only [packetizeAll, Option.some.injEq, Prod.mk.injEq] at done
      obtain ⟨rfl, rfl⟩ := done
      exact ⟨[], other, rfl, rfl⟩
  | cons args rest ih =>
      obtain ⟨first, next, behind, called, later, rfl⟩ := packetize_all_cons packer final args rest output done
      rw [packetize_all_chunks packer next final args rest first behind called later, pid_packets_append]
      obtain ⟨packets, tables, stream, ready, last, rfl, parts⟩ := packetize_written packer next args first called
      have readyPcm : ready.mIsPcmAudio = packer.mIsPcmAudio := parts.ready_pcm
      rw [parts.chunked, parts.pid_stream]
      by_cases mine : args.isAudio = isAudio
      · subst isAudio
        have streamed := emit_stream_agrees ready other next args stream
          (by rw [same, parts.ready_counter]) (by rw [pcm, readyPcm]) parts.streamed
        obtain ⟨ownPackets, ownNext, ownStream, ownLast, ownCalled, ownParts, _⟩ :=
          packetize_some other (streamOnly args) [] other parts.fits (stream_only_tables other args)
        have emittedToo := ownParts.streamed
        rw [streamed, Option.some.injEq, Prod.mk.injEq] at emittedToo
        obtain ⟨rfl, rfl⟩ := emittedToo
        obtain ⟨own, ownFinal, ownLater, observed⟩ := ih next
          (setStreamCounter other args.isAudio (streamCounter next args.isAudio)) behind
          (by rw [stream_counter_set]) (by rw [set_stream_counter_pcm, pcm, parts.ended, set_stream_counter_pcm, readyPcm])
          later
        have selected : streamPart args.isAudio args = some (streamOnly args) := by rw [streamPart, if_pos rfl]
        refine ⟨ownPackets.flatten ++ own, ownFinal, ?_, ?_⟩
        · rw [List.filterMap_cons_some selected]
          exact packetize_all_step _ _ _ _ _ _ _ ownCalled ownLater
        · rw [packetize_all_chunks _ _ _ _ _ _ _ ownCalled ownLater, pid_packets_append, ownParts.chunked,
            ownParts.pid_stream, stream_only_audio, observed]
      · have skipped : streamPart isAudio args = none := by rw [streamPart, if_neg mine]
        rw [if_neg mine, List.nil_append, List.filterMap_cons_none skipped]
        apply ih next other behind _ _ later
        · rw [same, parts.ended, stream_counter_set_other _ _ _ _ (Ne.symm mine), parts.ready_counter]
        · rw [pcm, parts.ended, set_stream_counter_pcm, readyPcm]

def setStreamCounters (packer : TSPacker) (audio video : Fin 16) : TSPacker :=
  { packer with mAudioContinuityCounter := audio, mVideoContinuityCounter := video }

theorem set_stream_counters_over (packer : TSPacker) (isAudio : Bool) (counter audio video : Fin 16) :
    setStreamCounters (setStreamCounter packer isAudio counter) audio video = setStreamCounters packer audio video := by
  cases isAudio <;> rfl

theorem set_stream_counter_over (packer : TSPacker) (isAudio : Bool) (counter audio video : Fin 16) :
    ∃ nextAudio nextVideo, setStreamCounter (setStreamCounters packer audio video) isAudio counter =
      setStreamCounters packer nextAudio nextVideo := by
  cases isAudio
  · exact ⟨audio, counter, rfl⟩
  · exact ⟨counter, video, rfl⟩

theorem head_finalize_agrees (packer ready : TSPacker) (audio video : Fin 16)
    (finalized : headFinalize packer = some ready) :
    headFinalize (setStreamCounters packer audio video) = some (setStreamCounters ready audio video) := by
  have same : (setStreamCounters packer audio video).mheadFinalize = packer.mheadFinalize := rfl
  have stored : (setStreamCounters packer audio video).mCSD = packer.mCSD := rfl
  by_cases done : packer.mheadFinalize = true
  · rw [headFinalize, if_pos done, Option.some.injEq] at finalized
    rw [headFinalize, same, if_pos done, finalized]
  · rw [headFinalize, if_neg done] at finalized
    rw [headFinalize, same, if_neg done, stored]
    cases codec : codecBytes packer.mCSD with
    | none => simp [codec] at finalized
    | some bytes =>
        simp only [codec, Option.some.injEq] at finalized ⊢
        rw [← finalized]
        rfl

theorem emit_tables_agrees (packer ready : TSPacker) (audio video : Fin 16) (tables : List Bytes)
    (emitted : emitTables packer = some (tables, ready)) :
    emitTables (setStreamCounters packer audio video) = some (tables, setStreamCounters ready audio video) := by
  obtain ⟨finalized, pat, pmt, patWritten, pmtWritten, rfl⟩ := emit_tables_some packer ready tables emitted
  have finalizedToo : headFinalize (counted (setStreamCounters packer audio video)) =
      some (setStreamCounters ready audio video) := head_finalize_agrees (counted packer) ready audio video finalized
  have patToo : patPacket (setStreamCounters ready audio video).mPATContinuityCounter = some pat := patWritten
  have pmtToo : pmtPacket (setStreamCounters ready audio video) = some pmt := pmtWritten
  simp only [emitTables, finalizedToo, patToo, pmtToo]

theorem tables_unaffected (pid : Nat) (table : tablePid pid) (packer final : TSPacker) (audio video : Fin 16)
    (calls : List Args) (output : Bytes) (done : packetizeAll packer calls = some (output, final)) :
    ∃ own last, packetizeAll (setStreamCounters packer audio video) (calls.filterMap tablePart) = some (own, last) ∧
      pidPackets pid (chunks 188 own) = pidPackets pid (chunks 188 output) := by
  induction calls generalizing packer audio video output with
  | nil =>
      simp only [packetizeAll, Option.some.injEq, Prod.mk.injEq] at done
      obtain ⟨rfl, rfl⟩ := done
      exact ⟨[], _, rfl, rfl⟩
  | cons args rest ih =>
      obtain ⟨first, next, behind, called, later, rfl⟩ := packetize_all_cons packer final args rest output done
      rw [packetize_all_chunks packer next final args rest first behind called later, pid_packets_append]
      obtain ⟨packets, tables, stream, ready, last, rfl, parts⟩ := packetize_written packer next args first called
      rw [parts.chunked, parts.pid_table pid table]
      have tabled := parts.tabled
      by_cases asked : emitPatAndPmt args.flags = true
      · rw [tablesFor, if_pos asked] at tabled
        have tabledToo : tablesFor (setStreamCounters packer audio video) tableOnly =
            some (tables, setStreamCounters ready audio video) := emit_tables_agrees packer ready audio video tables tabled
        obtain ⟨ownPackets, ownNext, ownStream, ownLast, ownCalled, ownParts, _⟩ :=
          packetize_some _ tableOnly tables _ (by decide) tabledToo
        obtain ⟨nextAudio, nextVideo, ended⟩ := set_stream_counter_over ready false ownLast audio video
        obtain ⟨own, ownFinal, ownLater, observed⟩ := ih next nextAudio nextVideo behind later
        have reached : ownNext = setStreamCounters next nextAudio nextVideo := by
          rw [parts.ended, set_stream_counters_over, ← ended]
          exact ownParts.ended
        have selected : tablePart args = some tableOnly := by rw [tablePart, if_pos asked]
        subst ownNext
        refine ⟨ownPackets.flatten ++ own, ownFinal, ?_, ?_⟩
        · rw [List.filterMap_cons_some selected]
          exact packetize_all_step _ _ _ _ _ _ _ ownCalled ownLater
        · rw [packetize_all_chunks _ _ _ _ _ _ _ ownCalled ownLater, pid_packets_append, ownParts.chunked,
            ownParts.pid_table pid table, observed]
      · rw [tablesFor, if_neg asked, Option.some.injEq, Prod.mk.injEq] at tabled
        obtain ⟨rfl, rfl⟩ := tabled
        have skipped : tablePart args = none := by rw [tablePart, if_neg asked]
        rw [List.filterMap_cons_none skipped, ← set_stream_counters_over packer args.isAudio last, ← parts.ended]
        exact ih next audio video behind later

def ownCalls (pid : Nat) (calls : List Args) : List Args :=
  if pid = kPidVideo then calls.filterMap (streamPart false)
  else if pid = kPidAudio then calls.filterMap (streamPart true)
  else calls.filterMap tablePart

theorem packets_continuous (packer final : TSPacker) (calls : List Args) (output : Bytes)
    (done : packetizeAll packer calls = some (output, final)) :
    ∀ pid ∈ [0, kPidPmt, kPidVideo, kPidAudio],
      List.IsChain (fun packet next => counterOf next = (counterOf packet + 1) % 16)
        ((pidPackets pid (chunks 188 output)).filter carriesPayload) ∧
      ∃ own last, packetizeAll packer (ownCalls pid calls) = some (own, last) ∧
        pidPackets pid (chunks 188 own) = pidPackets pid (chunks 188 output) := by
  intro pid member
  have stream (isAudio : Bool) := stream_unaffected isAudio packer packer final calls output rfl rfl done
  have tables (pid : Nat) (table : tablePid pid) := tables_unaffected pid table packer final
    packer.mAudioContinuityCounter packer.mVideoContinuityCounter calls output done
  have chain (own : countedPid pid) : List.IsChain (fun packet next => counterOf next = (counterOf packet + 1) % 16)
      ((pidPackets pid (chunks 188 output)).filter carriesPayload) := by
    have numbered := packetize_all_numbered packer final calls output pid own done
    rw [numbered_payload _ _ _ numbered]
    exact numbered_chain _ _ _ numbered
  simp only [List.mem_cons, List.not_mem_nil, or_false] at member
  rcases member with rfl | rfl | rfl | rfl
  · exact ⟨chain (.inl (.inl rfl)), tables 0 (.inl rfl)⟩
  · exact ⟨chain (.inl (.inr rfl)), tables kPidPmt (.inr rfl)⟩
  · exact ⟨chain (.inr ⟨false, rfl⟩), stream false⟩
  · exact ⟨chain (.inr ⟨true, rfl⟩), stream true⟩

def longCall : Args := ⟨true, List.replicate 200 0x55, 3, [], 0, 40, 7, by rw [List.length_replicate]; omega⟩

theorem packets_continuous_small :
    ∃ output final, packetizeAll (construct true true) [tableCall, longCall, tableCall, longCall] = some (output, final) ∧
      ∀ pid ∈ [0, kPidPmt, kPidVideo, kPidAudio],
        List.IsChain (fun packet next => counterOf next = (counterOf packet + 1) % 16)
          ((pidPackets pid (chunks 188 output)).filter carriesPayload) ∧
        ∃ own last, packetizeAll (construct true true)
            (ownCalls pid [tableCall, longCall, tableCall, longCall]) = some (own, last) ∧
          pidPackets pid (chunks 188 own) = pidPackets pid (chunks 188 output) := by
  have completes : (packetizeAll (construct true true) [tableCall, longCall, tableCall, longCall]).isSome = true := by
    decide +kernel
  obtain ⟨⟨output, final⟩, done⟩ := Option.isSome_iff_exists.mp completes
  exact ⟨output, final, done, packets_continuous _ final _ output done⟩

end Droidlogic.Ts
