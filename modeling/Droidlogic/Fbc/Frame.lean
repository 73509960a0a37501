import Mathlib.Data.List.Chain
import Droidlogic.Fbc.Receive

set_option autoImplicit false

namespace Droidlogic.Fbc

open Droidlogic.Lib

structure ValidFrame (frame : Bytes) : Prop where
  leader : frame.take 2 = [0x5a, 0x5a]
  announced : cmdLen frame = frame.length
  long : 8 ≤ frame.length
  checksum : le32 (calcrc32 0 (frame.take (frame.length - 4))) = frame.drop (frame.length - 4)

theorem read_led_header (frame rest : Bytes) (reads : List Nat) (valid : ValidFrame frame) (enough : 2 ≤ positives reads) :
    ∃ left, readLoop 2 2 reads (frame.drop 2 ++ rest) ledBuf =
        .done ⟨frame.take 4 ++ List.replicate 508 0, frame.drop 4 ++ rest, left⟩ ∧ positives reads ≤ positives left + 2 := by
  have long := valid.long
  have announcedBytes : ((frame.drop 2).take 2).length = 2 := by
    rw [List.length_take, List.length_drop]
    omega
  obtain ⟨left, done, counted⟩ := read_loop_done reads [0x5a, 0x5a] [0, 0] (List.replicate 508 0) ((frame.drop 2).take 2)
    (frame.drop 4 ++ rest) (by rw [announcedBytes]; rfl) (by rw [announcedBytes]; exact Nat.le_trans enough (positives_le_sum reads))
  rw [announcedBytes] at done counted
  have line : (frame.drop 2).take 2 ++ (frame.drop 4 ++ rest) = frame.drop 2 ++ rest := by
    rw [← List.append_assoc, ← List.drop_drop (i := 2) (j := 2), List.take_append_drop]
  have front : [0x5a, 0x5a] ++ (frame.drop 2).take 2 = frame.take 4 := by
    rw [← valid.leader, ← List.take_add]
  rw [line, front] at done
  exact ⟨left, done, counted⟩

theorem read_led_body (frame rest : Bytes) (reads : List Nat) (valid : ValidFrame frame) (short : frame.length ≤ 512)
    (enough : frame.length ≤ positives reads + 4) :
    ∃ left, readBody ⟨frame.take 4 ++ List.replicate 508 0, frame.drop 4 ++ rest, reads⟩ =
        .done ⟨frame ++ List.replicate (512 - frame.length) 0, rest, left⟩ := by
  have long := valid.long
  have four : (frame.take 4).length = 4 := by
    rw [List.length_take]
    omega
  have announced : cmdLen (frame.take 4 ++ List.replicate 508 0) = frame.length := by
    rw [← valid.announced]
    apply cmd_len_take
    rw [List.take_append_of_le_length (by omega), List.take_take]
    rfl
  have behind : (frame.drop 4).length = frame.length - 4 := List.length_drop
  have zeros : List.replicate 508 (0 : UInt8) = List.replicate (frame.length - 4) 0 ++ List.replicate (512 - frame.length) 0 := by
    rw [List.replicate_append_replicate]
    congr 1
    omega
  obtain ⟨left, done, _⟩ := read_loop_done reads (frame.take 4) (List.replicate (frame.length - 4) 0)
    (List.replicate (512 - frame.length) 0) (frame.drop 4) rest (by rw [List.length_replicate, behind])
    (by have sum := positives_le_sum reads; omega)
  rw [behind, four, List.append_assoc (frame.take 4) (List.replicate _ _), ← zeros, List.take_append_drop] at done
  refine ⟨left, ?_⟩
  rw [readBody]
  simp only [announced]
  rw [if_neg (by omega), done]

theorem verify_frame_valid (frame rest retData : Bytes) (retLen : Int) (reads : List Nat) (valid : ValidFrame frame)
    (short : frame.length ≤ 512) (caller : retData.length = 512) :
    verifyFrame retData retLen ⟨frame ++ List.replicate (512 - frame.length) 0, rest, reads⟩ =
      .done ⟨frame.length, frame.length, frame.take (frame.length % 512) ++ retData.drop (frame.length % 512), rest, reads⟩ := by
  have long := valid.long
  have announced : cmdLen (frame ++ List.replicate (512 - frame.length) 0) = frame.length := by
    rw [← valid.announced]
    apply cmd_len_take
    rw [List.take_append_of_le_length (by omega)]
  have size : (frame ++ List.replicate (512 - frame.length) (0 : UInt8)).length = 512 := by
    rw [List.length_append, List.length_replicate]
    omega
  have crc : le32 (frameCrc (frame ++ List.replicate (512 - frame.length) 0) frame.length) =
      ((frame ++ List.replicate (512 - frame.length) 0).drop (frame.length - 4)).take 4 := by
    rw [frameCrc, if_pos (by omega), List.take_append_of_le_length (by omega), valid.checksum,
      List.drop_append_of_le_length (by omega), List.take_left' (by rw [List.length_drop]; omega)]
  have copied : (frame ++ List.replicate (512 - frame.length) (0 : UInt8)).take (frame.length % 512) =
      frame.take (frame.length % 512) := List.take_append_of_le_length (Nat.mod_le _ _)
  have count : (frame.take (frame.length % 512)).length = frame.length % 512 := by
    rw [List.length_take]
    exact Nat.min_eq_left (Nat.mod_le _ _)
  simp only [verifyFrame, announced]
  rw [if_neg (by omega), if_pos crc, copied, overwrite, if_pos (by rw [count, caller]; omega), count]
  simp only [List.take_zero, List.nil_append, Nat.zero_add]

theorem search_consumes (reads : List Nat) (state : Search) (line rest : Bytes) (left : List Nat)
    (found : search state reads line = some (rest, left)) : rest.length < line.length := by
  induction reads generalizing state line with
  | nil => cases line <;> simp [search] at found
  | cons read reads ih =>
      cases line with
      | nil => exact ih _ _ (by rwa [search] at found)
      | cons byte line =>
          rw [search] at found
          split at found
          · exact ih _ _ found
          · split at found
            · simp only [Option.some.injEq, Prod.mk.injEq] at found
              rw [found.1, List.length_cons]
              exact Nat.lt_succ_self _
            · exact Nat.lt_succ_of_lt (ih _ _ found)

-- The frame's second leader byte arrives as a second byte: after an even number
-- of timeouts when the search starts out waiting for one.
def LeaderMet : Search → List Nat → Prop
  | _, [] => False
  | state, read :: reads => if read = 0 then LeaderMet (timedOut state) reads else state = .second

-- While the search waits for a second leader byte it meets no 0x5A of the noise
-- and not the frame's first byte, and the frame's second byte finds it there.
def Undisturbed : Search → Bytes → List Nat → Prop
  | _, _, [] => False
  | state, [], read :: reads =>
      if read = 0 then Undisturbed (timedOut state) [] reads else state ≠ .second ∧ LeaderMet .second reads
  | state, byte :: noise, read :: reads =>
      if read = 0 then Undisturbed (timedOut state) (byte :: noise) reads
      else ¬ (state = .second ∧ byte = 0x5a) ∧ Undisturbed (other state byte) noise reads

theorem other_leading (state : Search) (different : state ≠ .second) : other state 0x5a = .second := by
  cases state
  · rfl
  · rfl
  · exact absurd rfl different

theorem other_second_iff (state : Search) (byte : UInt8) : other state byte = .second ↔ state ≠ .second ∧ byte = 0x5a := by
  cases state <;> by_cases leading : byte = 0x5a <;> simp [other, leading]

-- With no timeout only the last byte of the noise matters.
theorem undisturbed_in_time (noise : Bytes) (reads : List Nat) (state : Search) (timely : ∀ read ∈ reads, read ≠ 0)
    (enough : noise.length + 2 ≤ reads.length) (apart : noise.IsChain fun byte next => ¬ (byte = 0x5a ∧ next = 0x5a))
    (fresh : ¬ (state = .second ∧ noise.head? = some 0x5a)) :
    Undisturbed state noise reads ↔ noise.getLast? ≠ some 0x5a ∧ (noise = [] → state ≠ .second) := by
  induction noise generalizing reads state with
  | nil =>
      match reads, timely, enough with
      | read :: next :: _, timely, _ =>
          have first : read ≠ 0 := timely read List.mem_cons_self
          have second : next ≠ 0 := timely next (by simp)
          simp [Undisturbed, LeaderMet, first, second]
      | [_], _, enough => simp at enough
      | [], _, enough => simp at enough
  | cons byte noise ih =>
      cases reads with
      | nil => simp at enough
      | cons read reads =>
          have positive : read ≠ 0 := timely read List.mem_cons_self
          have met : ¬ (state = .second ∧ byte = 0x5a) := by simpa using fresh
          have later : ¬ (other state byte = .second ∧ noise.head? = some 0x5a) := by
            rintro ⟨armed, follows⟩
            obtain ⟨tail, rfl⟩ := List.head?_eq_some_iff.mp follows
            exact (List.isChain_cons_cons.mp apart).1 ⟨((other_second_iff state byte).mp armed).2, rfl⟩
          rw [Undisturbed, if_neg positive, ih reads _ (fun read member => timely read (List.mem_cons_of_mem _ member))
            (by simpa using enough) apart.tail later]
          cases noise with
          | nil =>
              simp only [List.getLast?_nil, List.getLast?_singleton, ne_eq, Option.some.injEq, reduceCtorEq, other_second_iff]
              by_cases leading : byte = 0x5a
              · by_cases armed : state = .second <;> simp [leading, armed]
              · simp [leading]
          | cons next rest => simp [met, List.getLast?_cons_cons]

theorem search_leader (reads : List Nat) (state : Search) (rest : Bytes) (met : LeaderMet state reads) :
    ∃ left, search state reads (0x5a :: rest) = some (rest, left) ∧ positives reads = positives left + 1 := by
  induction reads generalizing state with
  | nil => exact met.elim
  | cons read reads ih =>
      by_cases zero : read = 0
      · rw [LeaderMet, if_pos zero] at met
        obtain ⟨left, found, counted⟩ := ih _ met
        exact ⟨left, by rw [search, if_pos zero, found], by rw [positives_cons, if_neg (by omega), counted]⟩
      · rw [LeaderMet, if_neg zero] at met
        exact ⟨reads, by rw [search, if_neg zero, if_pos ⟨met, rfl⟩], by rw [positives_cons, if_pos (by omega)]⟩

theorem search_leader_met (reads left : List Nat) (state : Search) (line rest : Bytes)
    (found : search state reads (0x5a :: rest) = some (line, left)) (same : line.length = rest.length) :
    LeaderMet state reads := by
  induction reads generalizing state with
  | nil => simp [search] at found
  | cons read reads ih =>
      rw [search] at found
      by_cases zero : read = 0
      · rw [if_pos zero] at found
        rw [LeaderMet, if_pos zero]
        exact ih _ found
      · rw [if_neg zero] at found
        rw [LeaderMet, if_neg zero]
        by_cases waiting : state = .second
        · exact waiting
        · rw [if_neg (fun both => waiting both.1)] at found
          have consumed := search_consumes _ _ _ _ _ found
          omega

theorem search_undisturbed (reads : List Nat) (state : Search) (noise rest : Bytes)
    (undisturbed : Undisturbed state noise reads) :
    ∃ left, search state reads (noise ++ 0x5a :: 0x5a :: rest) = some (rest, left) ∧
      positives reads = positives left + noise.length + 2 := by
  induction reads generalizing state noise with
  | nil => cases noise <;> exact undisturbed.elim
  | cons read reads ih =>
      cases noise with
      | nil =>
          rw [Undisturbed] at undisturbed
          by_cases zero : read = 0
          · rw [if_pos zero] at undisturbed
            obtain ⟨left, found, counted⟩ := ih _ _ undisturbed
            rw [List.nil_append] at found ⊢
            exact ⟨left, by rw [search, if_pos zero, found], by rw [positives_cons, if_neg (by omega), counted]⟩
          · rw [if_neg zero] at undisturbed
            obtain ⟨left, found, counted⟩ := search_leader reads .second rest undisturbed.2
            rw [List.nil_append]
            refine ⟨left, ?_, by rw [positives_cons, if_pos (by omega), counted]; simp⟩
            rw [search, if_neg zero, if_neg (fun both => undisturbed.1 both.1), other_leading state undisturbed.1, found]
      | cons byte noise =>
          rw [Undisturbed] at undisturbed
          rw [List.cons_append, List.length_cons]
          by_cases zero : read = 0
          · rw [if_pos zero] at undisturbed
            obtain ⟨left, found, counted⟩ := ih _ _ undisturbed
            rw [List.cons_append] at found
            rw [List.length_cons] at counted
            exact ⟨left, by rw [search, if_pos zero, found], by rw [positives_cons, if_neg (by omega), counted]⟩
          · rw [if_neg zero] at undisturbed
            obtain ⟨left, found, counted⟩ := ih _ _ undisturbed.2
            refine ⟨left, by rw [search, if_neg zero, if_neg undisturbed.1, found], ?_⟩
            rw [positives_cons, if_pos (by omega), counted]
            omega

-- Found anywhere else, the leader leaves more or less than the frame behind it.
theorem search_undisturbed_of_found (reads left : List Nat) (state : Search) (noise line rest : Bytes)
    (found : search state reads (noise ++ 0x5a :: 0x5a :: rest) = some (line, left)) (same : line.length = rest.length) :
    Undisturbed state noise reads := by
  induction reads generalizing state noise with
  | nil => cases noise <;> simp [search] at found
  | cons read reads ih =>
      cases noise with
      | nil =>
          rw [List.nil_append, search] at found
          rw [Undisturbed]
          by_cases zero : read = 0
          · rw [if_pos zero] at found ⊢
            exact ih _ [] found
          · rw [if_neg zero] at found ⊢
            by_cases waiting : state = .second
            · rw [if_pos ⟨waiting, rfl⟩, Option.some.injEq, Prod.mk.injEq] at found
              rw [← found.1, List.length_cons] at same
              omega
            · rw [if_neg (fun both => waiting both.1), other_leading state waiting] at found
              exact ⟨waiting, search_leader_met _ _ _ _ _ found same⟩
      | cons byte noise =>
          rw [List.cons_append, search] at found
          rw [Undisturbed]
          by_cases zero : read = 0
          · rw [if_pos zero] at found ⊢
            exact ih _ (byte :: noise) found
          · rw [if_neg zero] at found ⊢
            by_cases early : state = .second ∧ byte = 0x5a
            · rw [if_pos early, Option.some.injEq, Prod.mk.injEq] at found
              rw [← found.1, List.length_append, List.length_cons, List.length_cons] at same
              omega
            · rw [if_neg early] at found
              exact ⟨early, ih _ _ found⟩

theorem uart_read_frame (noise frame rest retData : Bytes) (retLen : Int) (reads : List Nat) (valid : ValidFrame frame)
    (short : frame.length ≤ 512) (caller : retData.length = 512) (undisturbed : Undisturbed .first noise reads)
    (enough : noise.length + frame.length ≤ positives reads) :
    ∃ left, uartReadData retData retLen (noise ++ frame ++ rest) reads = .done ⟨frame.length, frame.length,
      frame.take (frame.length % 512) ++ retData.drop (frame.length % 512), rest, left⟩ := by
  have long := valid.long
  have shape : noise ++ frame ++ rest = noise ++ 0x5a :: 0x5a :: (frame.drop 2 ++ rest) := by
    have split := List.take_append_drop 2 frame
    rw [valid.leader] at split
    rw [List.append_assoc, ← split]
    rfl
  obtain ⟨ledReads, found, ledCount⟩ := search_undisturbed reads .first noise (frame.drop 2 ++ rest) undisturbed
  obtain ⟨headerReads, header, headerCount⟩ := read_led_header frame rest ledReads valid (by omega)
  obtain ⟨left, body⟩ := read_led_body frame rest headerReads valid short (by omega)
  refine ⟨left, ?_⟩
  rw [uartReadData, shape, read_header, found]
  simp only [header, Outcome.bind, body]
  exact verify_frame_valid frame rest retData retLen left valid short caller

theorem uart_read_found (line retData : Bytes) (retLen : Int) (reads : List Nat) (result : UartResult)
    (returned : uartReadData retData retLen line reads = .done result) (accepted : result.ret ≠ -1) :
    ∃ led left, search .first reads line = some (led, left) ∧ (led.length : Int) + 2 = result.line.length + result.ret := by
  have header := read_header line reads
  cases found : search .first reads line with
  | none =>
      rw [found] at header
      simp [uartReadData, header, Outcome.bind] at returned
  | some search =>
      obtain ⟨led, ledReads⟩ := search
      rw [found] at header
      simp only [] at header
      cases announced : readLoop 2 2 ledReads led ledBuf with
      | waiting => simp [uartReadData, header, announced, Outcome.bind] at returned
      | fault => simp [uartReadData, header, announced, Outcome.bind] at returned
      | done head =>
          obtain ⟨size, _, headLine⟩ := read_loop_kept _ _ _ _ _ _ announced
          rw [led_buf_length] at size
          rw [uartReadData, header, announced] at returned
          rcases read_body_cases head size with ⟨faults, _⟩ | ⟨waits, _⟩ | ⟨least, _, body, bodyDone, _, same⟩
          · simp [faults, Outcome.bind] at returned
          · simp [waits, Outcome.bind] at returned
          · simp only [Outcome.bind, bodyDone, verifyFrame] at returned
            have bodyLine : body.line.length + (cmdLen head.tempBuf - 4) = head.line.length := by
              rw [readBody, if_neg (by omega)] at bodyDone
              exact (read_loop_kept _ _ _ _ _ _ bodyDone).2.2
            refine ⟨led, ledReads, rfl, ?_⟩
            split at returned
            · simp at returned
            · split at returned
              · split at returned
                · simp at returned
                · simp only [Outcome.done.injEq] at returned
                  rw [← returned]
                  simp only []
                  omega
              · simp only [Outcome.done.injEq] at returned
                rw [← returned] at accepted
                simp at accepted

-- One call skips the noise and hands over the frame behind it.
theorem resync_iff (noise frame rest retData : Bytes) (retLen : Int) (reads : List Nat) (valid : ValidFrame frame)
    (short : frame.length ≤ 511) (caller : retData.length = 512)
    (enough : noise.length + frame.length ≤ positives reads) :
    (∃ left, uartReadData retData retLen (noise ++ frame ++ rest) reads =
      .done ⟨frame.length, frame.length, frame ++ retData.drop frame.length, rest, left⟩) ↔
    Undisturbed .first noise reads := by
  have below : frame.length % 512 = frame.length := Nat.mod_eq_of_lt (by omega)
  constructor
  · rintro ⟨left, returned⟩
    obtain ⟨led, ledReads, found, count⟩ := uart_read_found _ _ _ _ _ returned (by simp only []; omega)
    have long := valid.long
    have split := List.take_append_drop 2 frame
    rw [valid.leader] at split
    rw [← split, List.append_assoc] at found
    apply search_undisturbed_of_found reads ledReads .first noise led (frame.drop 2 ++ rest) found
    rw [List.length_append, List.length_drop]
    simp only [] at count
    omega
  · intro undisturbed
    obtain ⟨left, returned⟩ := uart_read_frame noise frame rest retData retLen reads valid (by omega) caller undisturbed enough
    rw [below, List.take_length] at returned
    exact ⟨left, returned⟩

def emptyFrame : Bytes := [0x5a, 0x5a, 0x09, 0x00, 0x00, 0x3e, 0xf4, 0xe0, 0x1f]

theorem empty_frame_valid : ValidFrame emptyFrame := ⟨rfl, by decide, by decide, by decide +kernel⟩

theorem resync_after_timeout :
    (∃ left, uartReadData (List.replicate 512 0) 0 ([0x41, 0x5a, 0x42] ++ emptyFrame ++ [0x5a]) ([1, 1, 1, 0] ++ List.replicate 13 1) =
      .done ⟨emptyFrame.length, emptyFrame.length, emptyFrame ++ (List.replicate 512 0).drop emptyFrame.length, [0x5a], left⟩) ↔
    Undisturbed .first [0x41, 0x5a, 0x42] ([1, 1, 1, 0] ++ List.replicate 13 1) :=
  resync_iff [0x41, 0x5a, 0x42] emptyFrame [0x5a] (List.replicate 512 0) 0 ([1, 1, 1, 0] ++ List.replicate 13 1)
    empty_frame_valid (by decide) List.length_replicate (by decide)

-- One 0x5A of noise pairs up with the frame's first byte and the length is read
-- from one byte too early: 2394 bytes are waited for.
theorem resync_lost_after_leading_noise :
    ValidFrame emptyFrame ∧ List.IsChain (fun byte next : UInt8 => ¬ (byte = 0x5a ∧ next = 0x5a)) [0x5a] ∧
      ¬ ∃ left, uartReadData (List.replicate 512 0) 0 ([0x5a] ++ emptyFrame ++ []) (List.replicate 30 1) =
        .done ⟨emptyFrame.length, emptyFrame.length, emptyFrame ++ (List.replicate 512 0).drop emptyFrame.length, [], left⟩ := by
  have waits : uartReadData (List.replicate 512 0) 0 ([0x5a] ++ emptyFrame ++ []) (List.replicate 30 1) = .waiting := by
    decide +kernel
  refine ⟨empty_frame_valid, .singleton _, ?_⟩
  rintro ⟨left, returned⟩
  rw [waits] at returned
  cases returned

-- The frame that fbcSetBatchValue builds, as one string of bytes.
def framed (payload : Bytes) : Bytes :=
  let head := [0x5a, 0x5a, .ofNat (payload.length + 9 &&& 0xff), .ofNat ((payload.length + 9) >>> 8 &&& 0xff), 0x00] ++ payload
  head ++ le32 (calcrc32 0 head)

theorem framed_length (payload : Bytes) : (framed payload).length = payload.length + 9 := by
  simp only [framed, List.length_append, List.length_cons, List.length_nil, le32_length]
  omega

theorem framed_valid (payload : Bytes) (short : payload.length ≤ 503) : ValidFrame (framed payload) := by
  have length := framed_length payload
  have low (n : Nat) : n &&& 0xff = n % 256 := Nat.and_two_pow_sub_one_eq_mod n 8
  refine ⟨rfl, ?_, by omega, ?_⟩
  · rw [length]
    simp only [framed, cmdLen, List.cons_append, List.getD_cons_succ, List.getD_cons_zero, low,
      Nat.shiftRight_eq_div_pow, Nat.shiftLeft_eq, UInt8.toNat_ofNat']
    omega
  · have head : (framed payload).length - 4 =
        ([0x5a, 0x5a, .ofNat (payload.length + 9 &&& 0xff), .ofNat ((payload.length + 9) >>> 8 &&& 0xff), 0x00] ++
          payload : Bytes).length := by
      rw [length]
      simp
    rw [head, framed, List.take_left, List.drop_left]

theorem serial_frame_some (write_buf payload : Bytes) (buffer : write_buf.length = 512) (short : payload.length ≤ 503) :
    serialFrame write_buf payload = some (framed payload) := by
  obtain ⟨header, old, sum, rest, rfl, headerSize, oldSize, sumSize⟩ : ∃ header old sum rest : Bytes,
      write_buf = header ++ (old ++ (sum ++ rest)) ∧ header.length = 5 ∧ old.length = payload.length ∧ sum.length = 4 := by
    refine ⟨write_buf.take 5, (write_buf.drop 5).take payload.length, ((write_buf.drop 5).drop payload.length).take 4,
      ((write_buf.drop 5).drop payload.length).drop 4, ?_, ?_, ?_, ?_⟩
    · rw [List.take_append_drop, List.take_append_drop, List.take_append_drop]
    · rw [List.length_take]
      omega
    · rw [List.length_take, List.length_drop]
      omega
    · rw [List.length_take, List.length_drop, List.length_drop]
      omega
  have first (source : Bytes) (five : source.length = 5) :
      overwrite (header ++ (old ++ (sum ++ rest))) 0 source = some (source ++ (old ++ (sum ++ rest))) := by
    have middle := overwrite_middle [] header (old ++ (sum ++ rest)) source (by rw [five, headerSize])
    simpa using middle
  have second (lead : Bytes) (five : lead.length = 5) :
      overwrite (lead ++ (old ++ (sum ++ rest))) 5 payload = some (lead ++ payload ++ (sum ++ rest)) := by
    have middle := overwrite_middle lead old (sum ++ rest) payload oldSize.symm
    rwa [five, List.append_assoc] at middle
  have third (lead checksum : Bytes) (five : lead.length = 5) (four : checksum.length = 4) :
      overwrite (lead ++ payload ++ (sum ++ rest)) (payload.length + 5) checksum =
        some (lead ++ payload ++ checksum ++ rest) := by
    have middle := overwrite_middle (lead ++ payload) sum rest checksum (by rw [four, sumSize])
    rwa [List.length_append, five, Nat.add_comm, List.append_assoc (lead ++ payload) sum] at middle
  simp only [serialFrame]
  rw [first _ rfl]
  simp only []
  rw [second _ rfl]
  simp only []
  have front (lead : Bytes) (five : lead.length = 5) :
      (lead ++ payload ++ (sum ++ rest)).take (payload.length + 5) = lead ++ payload := by
    apply List.take_left'
    rw [List.length_append, five, Nat.add_comm]
  rw [front _ rfl, third _ _ rfl (le32_length _)]
  simp only [framed, Option.some.injEq]
  apply List.take_left'
  simp only [List.length_append, List.length_cons, List.length_nil, le32_length]
  omega

theorem serial_frame_none (write_buf payload : Bytes) (buffer : write_buf.length = 512) (long : 504 ≤ payload.length) :
    serialFrame write_buf payload = none := by
  simp only [serialFrame]
  cases led : overwrite write_buf 0 [0x5a, 0x5a, .ofNat (payload.length + 9 &&& 0xff),
      .ofNat ((payload.length + 9) >>> 8 &&& 0xff), 0x00] with
  | none => rfl
  | some ledBuffer =>
      cases filled : overwrite ledBuffer 5 payload with
      | none => simp only [filled]
      | some filledBuffer =>
          have size := (overwrite_length _ _ _ _ filled).trans ((overwrite_length _ _ _ _ led).trans buffer)
          have past : overwrite filledBuffer (payload.length + 5) (le32 (calcrc32 0 (filledBuffer.take (payload.length + 5)))) =
              none := by
            rw [overwrite_none_iff, le32_length]
            omega
          simp only [filled, past]

theorem positives_all (reads : List Nat) (chunks : ∀ read ∈ reads, 0 < read) : positives reads = reads.length :=
  List.countP_eq_length.mpr fun read member => decide_eq_true (chunks read member)

-- threadLoop hands in a buffer of zeros.
theorem set_batch_round_trip_iff (mUpgradeFlag retLen : Int) (write_buf payload : Bytes) (reads : List Nat)
    (sending : mUpgradeFlag ≠ 1) (buffer : write_buf.length = 512) (accepted : payload.length < 512)
    (chunks : ∀ read ∈ reads, 0 < read) (enough : payload.length + 9 ≤ reads.length) :
    (∃ frame retData left, fbcSetBatchValue mUpgradeFlag .serial write_buf payload = some (0, some (.serial, frame)) ∧
      uartReadData (List.replicate 512 0) retLen frame reads = .done ⟨frame.length, frame.length, retData, [], left⟩ ∧
      retData.take frame.length = frame) ↔
    payload.length ≤ 502 := by
  have zeros : (List.replicate 512 (0 : UInt8)).length = 512 := List.length_replicate
  have count := positives_all reads chunks
  have undisturbed : Undisturbed .first [] reads :=
    (undisturbed_in_time [] reads .first (fun read member => Nat.ne_of_gt (chunks read member))
      (by rw [List.length_nil]; omega) .nil (by simp)).mpr ⟨by simp, by simp⟩
  have sends : fbcSetBatchValue mUpgradeFlag .serial write_buf payload =
      (serialFrame write_buf payload).map fun frame => (0, some (.serial, frame)) := by
    rw [fbcSetBatchValue, if_neg sending, if_neg (by omega)]
  have length := framed_length payload
  by_cases fits : payload.length ≤ 503
  · obtain ⟨left, returned⟩ := uart_read_frame [] (framed payload) [] (List.replicate 512 0) retLen reads
      (framed_valid payload fits) (by omega) zeros undisturbed (by rw [List.length_nil]; omega)
    rw [List.nil_append, List.append_nil] at returned
    rw [sends, serial_frame_some write_buf payload buffer fits]
    constructor
    · rintro ⟨frame, retData, leftToo, sent, returnedToo, same⟩
      simp only [Option.map_some, Option.some.injEq, Prod.mk.injEq, true_and] at sent
      subst frame
      by_cases full : payload.length = 503
      · -- 512 % 512 bytes are copied.
        rw [returned, Outcome.done.injEq, UartResult.mk.injEq, length, full] at returnedToo
        have empty : List.replicate 512 (0 : UInt8) = framed payload := by
          have data := returnedToo.2.2.1
          rw [Nat.mod_self, List.take_zero, List.nil_append, List.drop_zero] at data
          rw [← same, ← data, List.take_of_length_le (by rw [zeros, length]; omega)]
        have head := congrArg List.head? empty
        simp [framed] at head
      · omega
    · intro short
      have below : (framed payload).length % 512 = (framed payload).length := Nat.mod_eq_of_lt (by omega)
      refine ⟨framed payload, _, left, rfl, returned, ?_⟩
      rw [below, List.take_length, List.take_left]
  · rw [sends, serial_frame_none write_buf payload buffer (by omega)]
    constructor
    · rintro ⟨frame, retData, left, sent, _⟩
      simp at sent
    · intro short
      omega

theorem set_batch_round_trip_small :
    (∃ frame retData left, fbcSetBatchValue 0 .serial (List.replicate 512 0xee) [0x14, 0x5a] = some (0, some (.serial, frame)) ∧
      uartReadData (List.replicate 512 0) 0 frame (List.replicate 11 3) =
        .done ⟨frame.length, frame.length, retData, [], left⟩ ∧ retData.take frame.length = frame) ↔
    ([0x14, 0x5a] : Bytes).length ≤ 502 :=
  set_batch_round_trip_iff 0 0 (List.replicate 512 0xee) [0x14, 0x5a] (List.replicate 11 3) (by decide)
    List.length_replicate (by decide) (by decide) (by decide)

-- At 504 bytes the checksum is written behind write_buf.
theorem set_batch_overflows :
    (List.replicate 504 (0x11 : UInt8)).length < 512 ∧
      ¬ ∃ frame, fbcSetBatchValue 0 .serial (List.replicate 512 0) (List.replicate 504 0x11) =
        some (0, some (.serial, frame)) := by
  have faults : fbcSetBatchValue 0 .serial (List.replicate 512 0) (List.replicate 504 0x11) = none := by decide +kernel
  refine ⟨by decide +kernel, ?_⟩
  rintro ⟨frame, sent⟩
  rw [faults] at sent
  simp at sent

end Droidlogic.Fbc
