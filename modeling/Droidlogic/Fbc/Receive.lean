import Droidlogic.Fbc.Protocol

set_option autoImplicit false

namespace Droidlogic.Fbc

open Droidlogic.Lib

def positives (reads : List Nat) : Nat := reads.countP fun read => 0 < read

theorem positives_le_sum (reads : List Nat) : positives reads ≤ reads.sum := by
  induction reads with
  | nil => simp [positives]
  | cons read rest ih =>
      simp only [positives, List.countP_cons, List.sum_cons] at ih ⊢
      split
      · next positive =>
          rw [decide_eq_true_eq] at positive
          omega
      · omega

theorem positives_cons (read : Nat) (reads : List Nat) :
    positives (read :: reads) = positives reads + if 0 < read then 1 else 0 := by
  simp [positives, List.countP_cons]

theorem read_loop_zero (bufIndex : Nat) (reads : List Nat) (line tempBuf : Bytes) :
    readLoop 0 bufIndex reads line tempBuf = .done ⟨tempBuf, line, reads⟩ := by
  cases reads <;> simp [readLoop]

theorem read_loop_nil (missing bufIndex : Nat) (line tempBuf : Bytes) (positive : 0 < missing) :
    readLoop missing bufIndex [] line tempBuf = .waiting := by
  rw [readLoop, if_neg (by omega)]

theorem read_loop_cons (missing bufIndex read : Nat) (reads : List Nat) (line tempBuf : Bytes) (positive : 0 < missing) :
    readLoop missing bufIndex (read :: reads) line tempBuf =
      match overwrite tempBuf bufIndex (line.take (min read missing)) with
      | none => .fault
      | some next => readLoop (missing - (line.take (min read missing)).length)
          (bufIndex + (line.take (min read missing)).length) reads (line.drop (min read missing)) next := by
  exact (readLoop.eq_def missing bufIndex (read :: reads) line tempBuf).trans (if_neg (Nat.ne_of_gt positive))

-- The data replaces what the buffer held there, however it is cut into reads.
theorem read_loop_done (reads : List Nat) (before old after data rest : Bytes) (same : old.length = data.length)
    (enough : data.length ≤ reads.sum) :
    ∃ left, readLoop data.length before.length reads (data ++ rest) (before ++ old ++ after) =
        .done ⟨before ++ data ++ after, rest, left⟩ ∧ positives reads ≤ positives left + data.length := by
  induction reads generalizing before old data with
  | nil =>
      have empty : data = [] := List.length_eq_zero_iff.mp (by simpa using enough)
      subst empty
      have emptyToo : old = [] := List.length_eq_zero_iff.mp same
      subst emptyToo
      exact ⟨[], by simp [read_loop_zero], by simp⟩
  | cons read reads ih =>
      by_cases none_missing : data = []
      · subst none_missing
        have emptyToo : old = [] := List.length_eq_zero_iff.mp same
        subst emptyToo
        exact ⟨read :: reads, by simp [read_loop_zero], by simp⟩
      · have positive : 0 < data.length := List.length_pos_iff.mpr none_missing
        have got : (data ++ rest).take (min read data.length) = data.take (min read data.length) :=
          List.take_append_of_le_length (by omega)
        have left : (data ++ rest).drop (min read data.length) = data.drop (min read data.length) ++ rest :=
          List.drop_append_of_le_length (by omega)
        have size : (data.take (min read data.length)).length = min read data.length := by
          rw [List.length_take]
          omega
        have oldSize : (old.take (min read data.length)).length = min read data.length := by
          rw [List.length_take]
          omega
        have written : overwrite (before ++ old ++ after) before.length (data.take (min read data.length)) =
            some (before ++ data.take (min read data.length) ++ (old.drop (min read data.length) ++ after)) := by
          have middle := overwrite_middle before (old.take (min read data.length)) (old.drop (min read data.length) ++ after)
            (data.take (min read data.length)) (by rw [size, oldSize])
          rwa [← List.append_assoc, List.append_assoc before, List.take_append_drop] at middle
        have missing : data.length - min read data.length = (data.drop (min read data.length)).length := by
          rw [List.length_drop]
        have index : before.length + min read data.length = (before ++ data.take (min read data.length)).length := by
          rw [List.length_append, size]
        rw [List.sum_cons] at enough
        obtain ⟨reads', looped, counted⟩ := ih (before ++ data.take (min read data.length))
          (old.drop (min read data.length)) (data.drop (min read data.length))
          (by rw [List.length_drop, List.length_drop, same]) (by rw [List.length_drop]; omega)
        refine ⟨reads', ?_, ?_⟩
        · rw [read_loop_cons _ _ _ _ _ _ positive, got, left, written]
          simp only [size, missing, index]
          rw [← List.append_assoc, looped, List.append_assoc before, List.take_append_drop]
        · rw [positives_cons, List.length_drop] at *
          split <;> omega

theorem read_loop_waiting (missing bufIndex : Nat) (reads : List Nat) (line tempBuf : Bytes)
    (less : min reads.sum line.length < missing) (room : bufIndex + min reads.sum line.length ≤ tempBuf.length) :
    readLoop missing bufIndex reads line tempBuf = .waiting := by
  induction reads generalizing missing bufIndex line tempBuf with
  | nil => exact read_loop_nil _ _ _ _ (by omega)
  | cons read reads ih =>
      rw [List.sum_cons] at less room
      have size : (line.take (min read missing)).length = min (min read missing) line.length := List.length_take
      rw [read_loop_cons _ _ _ _ _ _ (by omega)]
      cases written : overwrite tempBuf bufIndex (line.take (min read missing)) with
      | none =>
          rw [overwrite_none_iff, size] at written
          omega
      | some next =>
          have kept := overwrite_length _ _ _ _ written
          simp only []
          apply ih
          · rw [size, List.length_drop]
            omega
          · rw [size, List.length_drop, kept]
            omega

theorem read_loop_fault (missing bufIndex : Nat) (reads : List Nat) (line tempBuf : Bytes)
    (inside : bufIndex ≤ tempBuf.length) (full : tempBuf.length < bufIndex + min missing (min reads.sum line.length)) :
    readLoop missing bufIndex reads line tempBuf = .fault := by
  induction reads generalizing missing bufIndex line tempBuf with
  | nil =>
      simp only [List.sum_nil] at full
      omega
  | cons read reads ih =>
      rw [List.sum_cons] at full
      have size : (line.take (min read missing)).length = min (min read missing) line.length := List.length_take
      rw [read_loop_cons _ _ _ _ _ _ (by omega)]
      cases written : overwrite tempBuf bufIndex (line.take (min read missing)) with
      | none => rfl
      | some next =>
          have kept := overwrite_length _ _ _ _ written
          have room : ¬ overwrite tempBuf bufIndex (line.take (min read missing)) = none := by simp [written]
          rw [overwrite_none_iff, size] at room
          simp only []
          apply ih
          · rw [size, kept]
            omega
          · rw [size, List.length_drop, kept]
            omega

theorem overwrite_take (buffer source result : Bytes) (offset position : Nat) (before : position ≤ offset)
    (written : overwrite buffer offset source = some result) : result.take position = buffer.take position := by
  by_cases room : offset + source.length ≤ buffer.length
  · rw [overwrite, if_pos room, Option.some.injEq] at written
    rw [← written, List.append_assoc, List.take_append_of_le_length (by rw [List.length_take]; omega), List.take_take,
      Nat.min_eq_left before]
  · simp [overwrite, room] at written

-- Whatever comes in, the loop leaves the bytes in front of it alone and takes
-- what it was missing off the line.
theorem read_loop_kept (missing bufIndex : Nat) (reads : List Nat) (line tempBuf : Bytes) (received : Received)
    (done : readLoop missing bufIndex reads line tempBuf = .done received) :
    received.tempBuf.length = tempBuf.length ∧ received.tempBuf.take bufIndex = tempBuf.take bufIndex ∧
      received.line.length + missing = line.length := by
  induction reads generalizing missing bufIndex line tempBuf with
  | nil =>
      by_cases zero : missing = 0
      · subst zero
        rw [read_loop_zero, Outcome.done.injEq] at done
        subst received
        exact ⟨rfl, rfl, rfl⟩
      · rw [read_loop_nil _ _ _ _ (by omega)] at done
        simp at done
  | cons read reads ih =>
      by_cases zero : missing = 0
      · subst zero
        rw [read_loop_zero, Outcome.done.injEq] at done
        subst received
        exact ⟨rfl, rfl, rfl⟩
      · rw [read_loop_cons _ _ _ _ _ _ (by omega)] at done
        cases written : overwrite tempBuf bufIndex (line.take (min read missing)) with
        | none => simp [written] at done
        | some next =>
            simp only [written] at done
            have size : (line.take (min read missing)).length = min (min read missing) line.length := List.length_take
            obtain ⟨length, prefix_, left⟩ := ih _ _ _ _ done
            refine ⟨length.trans (overwrite_length _ _ _ _ written), ?_, ?_⟩
            · have shorter := congrArg (List.take bufIndex) prefix_
              rw [List.take_take, List.take_take, Nat.min_eq_left (by omega)] at shorter
              rw [shorter]
              exact overwrite_take _ _ _ _ _ (Nat.le_refl _) written
            · rw [size, List.length_drop] at left
              omega

-- What the leader search remembers of tempBuf: whether its first byte is a 0x5A
-- left over from an earlier round, and whether the second byte comes next.
inductive Search
  | first
  | again
  | second
deriving DecidableEq

def timedOut : Search → Search
  | .first => .first
  | .again => .second
  | .second => .again

def other : Search → UInt8 → Search
  | .second, _ => .again
  | _, byte => if byte = 0x5a then .second else .first

def search : Search → List Nat → Bytes → Option (Bytes × List Nat)
  | _, [], _ => none
  | state, _ :: reads, [] => search (timedOut state) reads []
  | state, read :: reads, byte :: line =>
      if read = 0 then search (timedOut state) reads (byte :: line)
      else if state = .second ∧ byte = 0x5a then some (line, reads)
      else search (other state byte) reads line

def indexOf : Search → Nat
  | .second => 1
  | _ => 0

def Remembers (state : Search) (byte : UInt8) : Prop := byte = 0x5a ↔ state ≠ .first

theorem remembers_timed_out (state : Search) (first : UInt8) (remembers : Remembers state first) :
    Remembers (timedOut state) first := by
  cases state with
  | first => exact remembers
  | again => exact ⟨fun _ => by simp [timedOut], fun _ => remembers.mpr (by simp)⟩
  | second => exact ⟨fun _ => by simp [timedOut], fun _ => remembers.mpr (by simp)⟩

theorem leader_loop_quiet (state : Search) (first second : UInt8) (tail line : Bytes) (read : Nat) (reads : List Nat)
    (remembers : Remembers state first) (fresh : second ≠ 0x5a) (quiet : line.take (min read 1) = []) :
    leaderLoop (indexOf state) (read :: reads) line (first :: second :: tail) =
      leaderLoop (indexOf (timedOut state)) reads (line.drop (min read 1)) (first :: second :: tail) := by
  cases state with
  | first =>
      have absent : first ≠ 0x5a := fun same => remembers.mp same rfl
      simp [leaderLoop, quiet, overwrite, indexOf, timedOut, absent]
  | again =>
      have present : first = 0x5a := remembers.mpr (by simp)
      simp [leaderLoop, quiet, overwrite, indexOf, timedOut, present]
  | second => simp [leaderLoop, quiet, overwrite, indexOf, timedOut, fresh]

theorem leader_loop_first (state : Search) (byte first second : UInt8) (tail line : Bytes) (read : Nat) (reads : List Nat)
    (some_byte : read ≠ 0) (place : state ≠ .second) :
    leaderLoop (indexOf state) (read :: reads) (byte :: line) (first :: second :: tail) =
      leaderLoop (indexOf (other state byte)) reads line (byte :: second :: tail) ∧ Remembers (other state byte) byte := by
  have one : min read 1 = 1 := by omega
  have start : indexOf state = 0 := by
    cases state with
    | second => exact absurd rfl place
    | _ => rfl
  by_cases leading : byte = 0x5a
  · have next : other state byte = .second := by
      cases state with
      | second => exact absurd rfl place
      | _ => rw [other, if_pos leading]; simp
    rw [next, start]
    exact ⟨by simp [leaderLoop, one, overwrite, indexOf, leading], fun _ => by simp, fun _ => leading⟩
  · have next : other state byte = .first := by
      cases state with
      | second => exact absurd rfl place
      | _ => rw [other, if_neg leading]; simp
    rw [next, start]
    exact ⟨by simp [leaderLoop, one, overwrite, indexOf, leading], fun same => absurd same leading, fun no => absurd rfl no⟩

theorem leader_loop_search (reads : List Nat) (line : Bytes) (state : Search) (first second : UInt8) (tail : Bytes)
    (remembers : Remembers state first) (fresh : second ≠ 0x5a) :
    leaderLoop (indexOf state) reads line (first :: second :: tail) =
      match search state reads line with
      | none => .waiting
      | some (rest, left) => .done ⟨0x5a :: 0x5a :: tail, rest, left⟩ := by
  induction reads generalizing line state first second with
  | nil => cases line <;> rfl
  | cons read reads ih =>
      have silent := leader_loop_quiet state first second tail line read reads remembers fresh
      have remembersOut := remembers_timed_out state first remembers
      cases line with
      | nil => rw [silent (by simp), search, List.drop_nil, ih _ _ _ _ remembersOut fresh]
      | cons byte line =>
          by_cases zero : read = 0
          · subst zero
            rw [silent (by simp), search, if_pos rfl, Nat.zero_min, List.drop_zero, ih _ _ _ _ remembersOut fresh]
          · rw [search, if_neg zero]
            by_cases place : state = .second
            · have one : min read 1 = 1 := by omega
              have present : first = 0x5a := remembers.mpr (by simp [place])
              subst place
              by_cases leading : byte = 0x5a
              · simp [leaderLoop, one, overwrite, indexOf, leading, present]
              · simpa [leaderLoop, one, overwrite, indexOf, other, leading, present] using
                  ih line .again first byte ⟨fun _ => by simp, fun _ => present⟩ leading
            · obtain ⟨stepped, kept⟩ := leader_loop_first state byte first second tail line read reads zero place
              rw [stepped, if_neg (fun both => place both.1), ih line _ byte second kept fresh]

def arrived (received : Received) : Nat := min received.reads.sum received.line.length

theorem read_loop_cases (missing bufIndex : Nat) (reads : List Nat) (line tempBuf : Bytes)
    (inside : bufIndex ≤ tempBuf.length) :
    (tempBuf.length < bufIndex + min missing (min reads.sum line.length) ∧
      readLoop missing bufIndex reads line tempBuf = .fault) ∨
    (min reads.sum line.length < missing ∧ bufIndex + min reads.sum line.length ≤ tempBuf.length ∧
      readLoop missing bufIndex reads line tempBuf = .waiting) ∨
    (bufIndex + missing ≤ tempBuf.length ∧ missing ≤ min reads.sum line.length ∧
      ∃ received, readLoop missing bufIndex reads line tempBuf = .done received) := by
  by_cases full : tempBuf.length < bufIndex + min missing (min reads.sum line.length)
  · exact .inl ⟨full, read_loop_fault _ _ _ _ _ inside full⟩
  · by_cases less : min reads.sum line.length < missing
    · exact .inr (.inl ⟨less, by omega, read_loop_waiting _ _ _ _ _ less (by omega)⟩)
    · refine .inr (.inr ⟨by omega, by omega, ?_⟩)
      obtain ⟨left, done, _⟩ := read_loop_done reads (tempBuf.take bufIndex) ((tempBuf.drop bufIndex).take missing)
        ((tempBuf.drop bufIndex).drop missing) (line.take missing) (line.drop missing)
        (by simp only [List.length_take, List.length_drop]; omega) (by rw [List.length_take]; omega)
      have count : (line.take missing).length = missing := by
        rw [List.length_take]
        omega
      have index : (tempBuf.take bufIndex).length = bufIndex := by
        rw [List.length_take]
        omega
      rw [count, index, List.take_append_drop, List.append_assoc, List.take_append_drop, List.take_append_drop] at done
      exact ⟨_, done⟩

def ledBuf : Bytes := 0x5a :: 0x5a :: List.replicate 510 0

theorem led_buf_length : ledBuf.length = 512 := by
  rw [ledBuf, List.length_cons, List.length_cons, List.length_replicate]

theorem read_header (line : Bytes) (reads : List Nat) :
    readHeader line reads =
      match search .first reads line with
      | none => .waiting
      | some (rest, left) => readLoop 2 2 left rest ledBuf := by
  have searched := leader_loop_search reads line .first 0 0 (List.replicate 510 0)
    ⟨fun same => absurd same (by decide), fun no => absurd rfl no⟩ (by decide)
  have cleared : List.replicate 512 (0 : UInt8) = 0 :: 0 :: List.replicate 510 0 := rfl
  rw [readHeader, cleared, show (0 : Nat) = indexOf .first from rfl, searched]
  cases search .first reads line with
  | none => rfl
  | some result => rfl

theorem read_header_cases (line : Bytes) (reads : List Nat) :
    readHeader line reads = .waiting ∨
      ∃ header, readHeader line reads = .done header ∧ header.tempBuf.length = 512 := by
  rw [read_header]
  cases search .first reads line with
  | none => exact .inl rfl
  | some result =>
      obtain ⟨rest, left⟩ := result
      rcases read_loop_cases 2 2 left rest ledBuf (by rw [led_buf_length]; omega) with
        ⟨full, _⟩ | ⟨_, _, waits⟩ | ⟨_, _, header, done⟩
      · rw [led_buf_length] at full
        omega
      · exact .inl waits
      · exact .inr ⟨header, done, (read_loop_kept _ _ _ _ _ _ done).1.trans led_buf_length⟩

theorem cmd_len_take (first second : Bytes) (same : first.take 4 = second.take 4) : cmdLen first = cmdLen second := by
  have byte (i : Nat) (inside : i < 4) : first.getD i 0 = second.getD i 0 := by
    have taken := congrArg (fun bytes : Bytes => bytes[i]?) same
    simp only [List.getElem?_take_of_lt inside] at taken
    rw [List.getD_eq_getElem?_getD, List.getD_eq_getElem?_getD, taken]
  rw [cmdLen, cmdLen, byte 3 (by omega), byte 2 (by omega)]

theorem verify_frame_done (retData : Bytes) (retLen : Int) (body : Received) (caller : retData.length = 512)
    (fits : cmdLen body.tempBuf ≤ body.tempBuf.length) : ∃ result, verifyFrame retData retLen body = .done result := by
  simp only [verifyFrame]
  rw [if_neg (by omega)]
  split
  · cases written : overwrite retData 0 (body.tempBuf.take (cmdLen body.tempBuf % 512)) with
    | none =>
        rw [overwrite_none_iff, List.length_take] at written
        omega
    | some result => exact ⟨_, rfl⟩
  · exact ⟨_, rfl⟩

theorem read_body_cases (header : Received) (size : header.tempBuf.length = 512) :
    (readBody header = .fault ∧ (cmdLen header.tempBuf < 4 ∨ 512 < cmdLen header.tempBuf ∧ 508 < arrived header)) ∨
    (readBody header = .waiting ∧ 4 ≤ cmdLen header.tempBuf ∧
      (cmdLen header.tempBuf ≤ 512 ∨ arrived header < 509) ∧ arrived header < cmdLen header.tempBuf - 4) ∨
    (4 ≤ cmdLen header.tempBuf ∧ cmdLen header.tempBuf ≤ 512 ∧ ∃ body, readBody header = .done body ∧ body.tempBuf.length = 512 ∧
      cmdLen body.tempBuf = cmdLen header.tempBuf) := by
  by_cases short : cmdLen header.tempBuf < 4
  · exact .inl ⟨by rw [readBody, if_pos short], .inl short⟩
  · have body : readBody header = readLoop (cmdLen header.tempBuf - 4) 4 header.reads header.line header.tempBuf := by
      rw [readBody, if_neg short]
    rw [body, arrived]
    rcases read_loop_cases (cmdLen header.tempBuf - 4) 4 header.reads header.line header.tempBuf (by omega) with
      ⟨full, faults⟩ | ⟨less, space, waits⟩ | ⟨room, _, received, done⟩
    · exact .inl ⟨faults, .inr (by omega)⟩
    · exact .inr (.inl ⟨waits, by omega, by omega, less⟩)
    · obtain ⟨length, front, _⟩ := read_loop_kept _ _ _ _ _ _ done
      exact .inr (.inr ⟨by omega, by omega, received, done, length.trans size, cmd_len_take _ _ front⟩)

-- Reads that have brought the announced bytes end the loop there and then.
def EndsInTime (header : Received) : Prop :=
  ∀ used later, header.reads = used ++ later → cmdLen header.tempBuf ≤ min used.sum header.line.length + 4 →
    ∃ body, readBody { header with reads := used } = .done body

theorem receive_safe_iff (retData : Bytes) (retLen : Int) (line : Bytes) (reads : List Nat)
    (caller : retData.length = 512) :
    (uartReadData retData retLen line reads ≠ .fault ∧
      ∀ header, readHeader line reads = .done header → EndsInTime header) ↔
    ∀ header, readHeader line reads = .done header →
      4 ≤ cmdLen header.tempBuf ∧ (cmdLen header.tempBuf ≤ 512 ∨ arrived header ≤ 508) := by
  rcases read_header_cases line reads with waits | ⟨header, done, size⟩
  · simp [uartReadData, waits, Outcome.bind]
  · have whole : uartReadData retData retLen line reads = (readBody header).bind (verifyFrame retData retLen) := by
      rw [uartReadData, done]
      rfl
    simp only [done, Outcome.done.injEq, forall_eq', whole]
    constructor
    · rintro ⟨safe, _⟩
      rcases read_body_cases header size with ⟨faults, _⟩ | ⟨_, least, most, _⟩ | ⟨least, fits, _⟩
      · simp [faults, Outcome.bind] at safe
      · exact ⟨least, most.imp_right Nat.le_of_lt_succ⟩
      · exact ⟨least, .inl fits⟩
    · rintro ⟨least, bounded⟩
      constructor
      · rcases read_body_cases header size with ⟨_, short | ⟨long, many⟩⟩ | ⟨waits, _⟩ | ⟨_, fits, body, bodyDone, bodySize, same⟩
        · omega
        · omega
        · simp [waits, Outcome.bind]
        · obtain ⟨result, verified⟩ := verify_frame_done retData retLen body caller (by omega)
          simp [bodyDone, Outcome.bind, verified]
      · intro used later split enough
        have fewer : used.sum ≤ header.reads.sum := by
          rw [split, List.sum_append]
          omega
        have cut := read_body_cases { header with reads := used } size
        simp only [arrived] at cut bounded
        rcases cut with ⟨_, short | ⟨long, many⟩⟩ | ⟨_, _, _, less⟩ | ⟨_, _, body, bodyDone, _⟩
        · omega
        · omega
        · omega
        · exact ⟨body, bodyDone⟩

theorem receive_safe_short :
    (uartReadData (List.replicate 512 0) 0 [0x5a, 0x5a, 0x02, 0x00] [1, 1, 2, 0] ≠ .fault ∧
      ∀ header, readHeader [0x5a, 0x5a, 0x02, 0x00] [1, 1, 2, 0] = .done header → EndsInTime header) ↔
    ∀ header, readHeader [0x5a, 0x5a, 0x02, 0x00] [1, 1, 2, 0] = .done header →
      4 ≤ cmdLen header.tempBuf ∧ (cmdLen header.tempBuf ≤ 512 ∨ arrived header ≤ 508) :=
  receive_safe_iff _ 0 _ _ List.length_replicate

-- 1024 bytes are announced and 509 come: the last one is written behind tempBuf.
theorem receive_unsafe_long :
    ¬ (uartReadData (List.replicate 512 0) 0 ([0x5a, 0x5a, 0x00, 0x04] ++ List.replicate 509 0x11) [1, 1, 2, 509] ≠ .fault ∧
      ∀ header, readHeader ([0x5a, 0x5a, 0x00, 0x04] ++ List.replicate 509 0x11) [1, 1, 2, 509] = .done header →
        EndsInTime header) :=
  fun holds => holds.1 (by decide +kernel)

end Droidlogic.Fbc
