import Droidlogic.Fbc.Protocol

set_option autoImplicit false

namespace Droidlogic.Fbc

open Droidlogic.Lib

-- What select or read gives: EINTR, another error of select, its timeout, an error of
-- read, or the bytes that have come, none of them where the line is closed.
inductive SerialEvent
  | interrupted
  | selectFailed
  | timeout
  | readFailed
  | received (come : Bytes)
deriving DecidableEq

-- p is the offset into inbuff.
structure SerialRead where
  c : UInt32
  inbuff : Bytes
  p : Nat

-- read gives at most what it is asked for, and at most 0x7ffff000 bytes.
def handOut (asked : Nat) (come : Bytes) : Bytes := come.take (min asked 2147479552)

-- buff[z + 1] = '\0' before the copy.
def keepPiece (uLen : UInt32) (buff : Bytes) (read : SerialRead) : Outcome SerialRead :=
  if (buff.length : Int) < uLen.toInt32.toInt then
    if buff.length + 1 < uLen.toNat then
      match overwrite read.inbuff read.p buff with
      | none => .fault
      | some inbuff => .done { read with inbuff := inbuff, p := read.p + buff.length }
    else .fault
  else
    match overwrite read.inbuff 0 buff with
    | none => .fault
    | some inbuff => .done { read with inbuff := inbuff }

-- The count and inbuff at the end of the loop. c += z comes before z is looked at.
def comReadLoop (uLen : UInt32) : List SerialEvent → SerialRead → Outcome (UInt32 × Bytes)
  | [], _ => .waiting
  | .interrupted :: events, read => comReadLoop uLen events read
  | .selectFailed :: _, read => .done (read.c, read.inbuff)
  | .timeout :: _, read => .done (read.c, read.inbuff)
  | .readFailed :: _, read => .done (read.c - 1, read.inbuff)
  | .received come :: events, read =>
      let buff := handOut (uLen - read.c).toNat come
      let counted := { read with c := read.c + .ofNat buff.length }
      if buff = [] then .done (counted.c, counted.inbuff)
      else (keepPiece uLen buff counted).bind fun read =>
        if uLen ≤ read.c then .done (read.c, read.inbuff) else comReadLoop uLen events read

-- memcpy(pData, inbuff, c), and c as an int.
def copyOut (pData : Bytes) (c : UInt32) (inbuff : Bytes) : Outcome (Int × Bytes) :=
  if c.toNat ≤ inbuff.length then
    match overwrite pData 0 (inbuff.take c.toNat) with
    | none => .fault
    | some pData => .done (c.toInt32.toInt, pData)
  else .fault

def comReadData (hComm : Int) (pData : Bytes) (uLen : UInt32) (events : List SerialEvent) : Outcome (Int × Bytes) :=
  if hComm < 0 then .done (-1, pData)
  else (comReadLoop uLen events ⟨0, List.replicate uLen.toNat 0, 0⟩).bind fun (c, inbuff) => copyOut pData c inbuff

-- How a run ends: not within these events, with as many bytes as were asked for, without
-- more bytes, or with an error of read.
inductive Ending
  | waiting
  | full
  | quiet
  | failed
deriving DecidableEq

-- The pieces that read hands out, with so many bytes handed out before, and the end.
def handedOut (uLen : Nat) : List SerialEvent → Nat → List Bytes × Ending
  | [], _ => ([], .waiting)
  | .interrupted :: events, before => handedOut uLen events before
  | .selectFailed :: _, _ => ([], .quiet)
  | .timeout :: _, _ => ([], .quiet)
  | .readFailed :: _, _ => ([], .failed)
  | .received come :: events, before =>
      let piece := handOut (uLen - before) come
      if piece = [] then ([], .quiet)
      else if uLen ≤ before + piece.length then ([piece], .full)
      else
        let rest := handedOut uLen events (before + piece.length)
        (piece :: rest.1, rest.2)

-- A run that ends gives the bytes in a row and their count, and no run leaves a buffer.
def Delivered (pData : Bytes) (uLen : UInt32) (events : List SerialEvent) (result : Outcome (Int × Bytes)) : Prop :=
  let received := (handedOut uLen.toNat events 0).1.flatten
  received.length ≤ uLen.toNat ∧
    result = if (handedOut uLen.toNat events 0).2 = .waiting then .waiting
      else .done (received.length, received ++ pData.drop received.length)

-- Pieces copied to the front of a buffer one after another.
def overlaid (pieces : List Bytes) (buffer : Bytes) : Bytes :=
  pieces.foldl (fun buffer piece => piece ++ buffer.drop piece.length) buffer

-- No error of read. Of a length that is positive as an int no piece is all but one byte,
-- and of a larger one the pieces, each copied to the front, lie as they do in a row.
def Regular (uLen : UInt32) (events : List SerialEvent) : Prop :=
  let (pieces, ending) := handedOut uLen.toNat events 0
  ending ≠ .failed ∧
    (uLen.toNat < 2147483648 → ∀ piece ∈ pieces, piece.length + 1 ≠ uLen.toNat) ∧
    (2147483648 ≤ uLen.toNat → ending ≠ .waiting → pieces.flatten.length < 2147483648 ∧
      (overlaid pieces (List.replicate uLen.toNat 0)).take pieces.flatten.length = pieces.flatten)

theorem hand_out_length (asked : Nat) (come : Bytes) :
    (handOut asked come).length ≤ asked ∧ (handOut asked come).length ≤ 2147479552 := by
  have length : (handOut asked come).length = min (min asked 2147479552) come.length := List.length_take
  omega

theorem handed_out_total (uLen before : Nat) (events : List SerialEvent) (inside : before ≤ uLen) :
    before + (handedOut uLen events before).1.flatten.length ≤ uLen := by
  induction events generalizing before with
  | nil => exact inside
  | cons event events ih =>
      cases event with
      | interrupted => exact ih before inside
      | selectFailed => exact inside
      | timeout => exact inside
      | readFailed => exact inside
      | received come =>
          have room := (hand_out_length (uLen - before) come).1
          rw [handedOut]
          split
          · exact inside
          · split
            · simp only [List.flatten_cons, List.flatten_nil, List.append_nil]
              omega
            · have later := ih (before + (handOut (uLen - before) come).length) (by omega)
              simp only [List.flatten_cons, List.length_append]
              omega

-- What the loop leaves, with the bytes of inbuff when it ends.
def endedLoop (count : Nat) (inbuff : Bytes) : Ending → Outcome (UInt32 × Bytes)
  | .waiting => .waiting
  | .full => .done (.ofNat count, inbuff)
  | .quiet => .done (.ofNat count, inbuff)
  | .failed => .done (.ofNat count - 1, inbuff)

section
variable (uLen : UInt32)

theorem counted_room (before : Nat) (inside : before ≤ uLen.toNat) :
    (uLen - .ofNat before).toNat = uLen.toNat - before := by
  have bound := uLen.toNat_lt
  rw [UInt32.toNat_sub, UInt32.toNat_ofNat']
  omega

theorem counted_full (count : Nat) (inside : count ≤ uLen.toNat) : uLen ≤ .ofNat count ↔ uLen.toNat ≤ count := by
  have bound := uLen.toNat_lt
  rw [UInt32.le_iff_toNat_le, UInt32.toNat_ofNat', Nat.mod_eq_of_lt (by omega)]

theorem read_loop_received (events : List SerialEvent) (come : Bytes) (before : Nat) (inbuff : Bytes) (p : Nat)
    (inside : before ≤ uLen.toNat) :
    comReadLoop uLen (.received come :: events) ⟨.ofNat before, inbuff, p⟩ =
      if handOut (uLen.toNat - before) come = [] then .done (.ofNat before, inbuff)
      else (keepPiece uLen (handOut (uLen.toNat - before) come)
          ⟨.ofNat (before + (handOut (uLen.toNat - before) come).length), inbuff, p⟩).bind fun read =>
        if uLen ≤ read.c then .done (read.c, read.inbuff) else comReadLoop uLen events read := by
  simp only [comReadLoop, counted_room uLen before inside, ← UInt32.ofNat_add]
  split
  · rename_i nothing
    rw [nothing]
    rfl
  · rfl

-- A length that is positive as an int: a piece goes behind the ones before it, unless it is
-- all but one byte.
theorem keep_piece_filled (got piece : Bytes) (c : UInt32) (short : uLen.toNat < 2147483648)
    (inside : got.length + piece.length ≤ uLen.toNat) (nonempty : piece ≠ []) :
    ∃ p, (piece.length < uLen.toNat → p = (got ++ piece).length) ∧
      keepPiece uLen piece ⟨c, zeroFilled uLen.toNat got, got.length⟩ =
        if piece.length + 1 = uLen.toNat then .fault else .done ⟨c, zeroFilled uLen.toNat (got ++ piece), p⟩ := by
  have positive := List.length_pos_iff.mpr nonempty
  have behind := overwrite_zero_filled uLen.toNat got piece inside
  simp only [keepPiece, word_to_int uLen short]
  by_cases part : piece.length < uLen.toNat
  · refine ⟨(got ++ piece).length, fun _ => rfl, ?_⟩
    rw [if_pos (Int.ofNat_lt.mpr part), behind, List.length_append]
    by_cases last : piece.length + 1 = uLen.toNat
    · rw [if_pos last, if_neg (by omega)]
    · rw [if_neg last, if_pos (by omega)]
  · have first : got = [] := List.length_eq_zero_iff.mp (by omega)
    refine ⟨0, fun less => absurd less part, ?_⟩
    rw [first, List.length_nil, List.nil_append] at behind ⊢
    rw [if_neg (fun less => part (Int.ofNat_lt.mp less)), if_neg (by omega), behind]

-- A run without more pieces.
theorem ended_quiet (got : Bytes) :
    (.done (.ofNat got.length, zeroFilled uLen.toNat got) : Outcome (UInt32 × Bytes)) =
      if ∃ piece ∈ ([] : List Bytes), piece.length + 1 = uLen.toNat then .fault
      else endedLoop (got ++ ([] : List Bytes).flatten).length (zeroFilled uLen.toNat (got ++ ([] : List Bytes).flatten)) .quiet := by
  simp [endedLoop]

theorem read_loop_short (events : List SerialEvent) (got : Bytes) (short : uLen.toNat < 2147483648)
    (inside : got.length ≤ uLen.toNat) :
    comReadLoop uLen events ⟨.ofNat got.length, zeroFilled uLen.toNat got, got.length⟩ =
      if ∃ piece ∈ (handedOut uLen.toNat events got.length).1, piece.length + 1 = uLen.toNat then .fault
      else endedLoop (got ++ (handedOut uLen.toNat events got.length).1.flatten).length
        (zeroFilled uLen.toNat (got ++ (handedOut uLen.toNat events got.length).1.flatten))
        (handedOut uLen.toNat events got.length).2 := by
  induction events generalizing got with
  | nil => simp [comReadLoop, handedOut, endedLoop]
  | cons event events ih =>
      cases event with
      | interrupted => exact ih got inside
      | selectFailed => exact ended_quiet uLen got
      | timeout => exact ended_quiet uLen got
      | readFailed => simp [comReadLoop, handedOut, endedLoop]
      | received come =>
          rw [read_loop_received uLen events come got.length _ _ inside, handedOut]
          have room := (hand_out_length (uLen.toNat - got.length) come).1
          generalize handOut (uLen.toNat - got.length) come = piece at room ⊢
          by_cases nothing : piece = []
          · rw [if_pos nothing, if_pos nothing]
            exact ended_quiet uLen got
          · have fits : got.length + piece.length ≤ uLen.toNat := by omega
            obtain ⟨p, place, keeps⟩ :=
              keep_piece_filled uLen got piece (.ofNat (got.length + piece.length)) short fits nothing
            rw [if_neg nothing, if_neg nothing, keeps]
            by_cases last : piece.length + 1 = uLen.toNat
            · rw [if_pos last, if_pos]
              · rfl
              · split
                · exact ⟨piece, List.mem_cons_self, last⟩
                · exact ⟨piece, List.mem_cons_self, last⟩
            · rw [if_neg last, Outcome.bind]
              by_cases full : uLen.toNat ≤ got.length + piece.length
              · rw [if_pos ((counted_full uLen _ fits).mpr full), if_pos full]
                simp [endedLoop, last]
              · have onward := ih (got ++ piece) (by rw [List.length_append]; exact fits)
                rw [if_neg (fun less => full ((counted_full uLen _ fits).mp less)), if_neg full,
                  place (by omega), ← List.length_append, onward]
                simp only [List.mem_cons, exists_eq_or_imp, last, false_or, List.flatten_cons, List.append_assoc,
                  List.length_append]

-- A length that is negative as an int: every piece goes to the front.
theorem keep_piece_high (piece inbuff : Bytes) (c : UInt32) (p : Nat) (high : 2147483648 ≤ uLen.toNat)
    (fits : piece.length ≤ inbuff.length) :
    keepPiece uLen piece ⟨c, inbuff, p⟩ = .done ⟨c, piece ++ inbuff.drop piece.length, p⟩ := by
  have bound := uLen.toNat_lt
  have negative : ¬(piece.length : Int) < uLen.toInt32.toInt := by
    rw [word_to_int_high uLen high]
    omega
  simp only [keepPiece, if_neg negative, overwrite, Nat.zero_add, if_pos fits, List.take_zero, List.nil_append]

theorem overlaid_length (pieces : List Bytes) (buffer : Bytes) (fits : pieces.flatten.length ≤ buffer.length) :
    (overlaid pieces buffer).length = buffer.length := by
  induction pieces generalizing buffer with
  | nil => rfl
  | cons piece pieces ih =>
      rw [List.flatten_cons, List.length_append] at fits
      have same : (piece ++ buffer.drop piece.length).length = buffer.length := by
        rw [List.length_append, List.length_drop]
        omega
      rw [overlaid, List.foldl_cons, ← same]
      exact ih _ (by rw [same]; omega)

theorem read_loop_high (events : List SerialEvent) (before : Nat) (inbuff : Bytes) (p : Nat)
    (high : 2147483648 ≤ uLen.toNat) (inside : before ≤ uLen.toNat) (size : inbuff.length = uLen.toNat) :
    comReadLoop uLen events ⟨.ofNat before, inbuff, p⟩ =
      endedLoop (before + (handedOut uLen.toNat events before).1.flatten.length)
        (overlaid (handedOut uLen.toNat events before).1 inbuff) (handedOut uLen.toNat events before).2 := by
  induction events generalizing before inbuff with
  | nil => rfl
  | cons event events ih =>
      cases event with
      | interrupted => exact ih before inbuff inside size
      | selectFailed => rfl
      | timeout => rfl
      | readFailed => rfl
      | received come =>
          rw [read_loop_received uLen events come before _ _ inside, handedOut]
          have room := (hand_out_length (uLen.toNat - before) come).1
          generalize handOut (uLen.toNat - before) come = piece at room ⊢
          by_cases nothing : piece = []
          · rw [if_pos nothing, if_pos nothing]
            rfl
          · have fits : before + piece.length ≤ uLen.toNat := by omega
            rw [if_neg nothing, if_neg nothing, keep_piece_high uLen piece inbuff _ p high (by omega), Outcome.bind]
            by_cases full : uLen.toNat ≤ before + piece.length
            · rw [if_pos ((counted_full uLen _ fits).mpr full), if_pos full]
              simp [endedLoop, overlaid]
            · have same : (piece ++ inbuff.drop piece.length).length = uLen.toNat := by
                rw [List.length_append, List.length_drop]
                omega
              rw [if_neg (fun less => full ((counted_full uLen _ fits).mp less)), if_neg full, ih _ _ fits same]
              simp only [List.flatten_cons, List.length_append, overlaid, List.foldl_cons, Nat.add_assoc]

theorem copy_out_done (pData inbuff : Bytes) (count : Nat) (inside : count ≤ uLen.toNat)
    (room : pData.length = uLen.toNat) (size : inbuff.length = uLen.toNat) :
    copyOut pData (.ofNat count) inbuff =
      .done ((UInt32.ofNat count).toInt32.toInt, inbuff.take count ++ pData.drop count) := by
  have bound := uLen.toNat_lt
  have length : (UInt32.ofNat count).toNat = count := Nat.mod_eq_of_lt (by omega)
  have taken : (inbuff.take count).length = count := by
    rw [List.length_take]
    omega
  rw [copyOut, length, if_pos (by omega), overwrite, taken, if_pos (by omega), List.take_zero, List.nil_append,
    Nat.zero_add]

-- c after an error of read is not the count.
theorem copy_out_failed (pData inbuff result : Bytes) (count : Nat) (inside : count ≤ uLen.toNat) :
    copyOut pData (.ofNat count - 1) inbuff ≠ .done ((count : Int), result) := by
  have bound := uLen.toNat_lt
  have length : (UInt32.ofNat count - 1).toNat = if count = 0 then 4294967295 else count - 1 := by
    have one : (1 : UInt32).toNat = 1 := rfl
    rw [UInt32.toNat_sub, UInt32.toNat_ofNat', one]
    split
    · omega
    · omega
  have other : (UInt32.ofNat count - 1).toInt32.toInt ≠ (count : Int) := by
    rcases Nat.lt_or_ge (UInt32.ofNat count - 1).toNat 2147483648 with low | high
    · rw [word_to_int _ low, length]
      rw [length] at low
      split
      · omega
      · omega
    · rw [word_to_int_high _ high, length]
      rw [length] at high
      split
      · omega
      · omega
  intro done
  rw [copyOut] at done
  split at done
  · split at done
    · cases done
    · injection done with pair
      exact other (congrArg Prod.fst pair)
  · cases done

theorem count_int_iff (count : Nat) (inside : count ≤ uLen.toNat) :
    (UInt32.ofNat count).toInt32.toInt = count ↔ count < 2147483648 := by
  have bound := uLen.toNat_lt
  have length : (UInt32.ofNat count).toNat = count := Nat.mod_eq_of_lt (by omega)
  rcases Nat.lt_or_ge count 2147483648 with low | high
  · rw [word_to_int _ (length.symm ▸ low), length]
    exact iff_of_true rfl low
  · rw [word_to_int_high _ (length.symm ▸ high), length]
    omega

-- What the caller gets for each end of the loop.
theorem delivered_ended (pData inbuff : Bytes) (events : List SerialEvent) (room : pData.length = uLen.toNat)
    (size : inbuff.length = uLen.toNat) :
    Delivered pData uLen events
        ((endedLoop (handedOut uLen.toNat events 0).1.flatten.length inbuff (handedOut uLen.toNat events 0).2).bind
          fun (c, inbuff) => copyOut pData c inbuff) ↔
      (handedOut uLen.toNat events 0).2 ≠ .failed ∧
        ((handedOut uLen.toNat events 0).2 ≠ .waiting →
          (handedOut uLen.toNat events 0).1.flatten.length < 2147483648 ∧
          inbuff.take (handedOut uLen.toNat events 0).1.flatten.length = (handedOut uLen.toNat events 0).1.flatten) := by
  have total := handed_out_total uLen.toNat 0 events (Nat.zero_le _)
  rw [Nat.zero_add] at total
  rw [Delivered]
  generalize (handedOut uLen.toNat events 0).1.flatten = received at total ⊢
  have exactly : copyOut pData (.ofNat received.length) inbuff =
      .done ((received.length : Int), received ++ pData.drop received.length) ↔
        received.length < 2147483648 ∧ inbuff.take received.length = received := by
    rw [copy_out_done uLen pData inbuff _ total room size, Outcome.done.injEq, Prod.mk.injEq, count_int_iff uLen _ total,
      List.append_left_inj]
  cases (handedOut uLen.toNat events 0).2 with
  | waiting => simp [endedLoop, Outcome.bind, total]
  | full => simpa [endedLoop, Outcome.bind, total] using exactly
  | quiet => simpa [endedLoop, Outcome.bind, total] using exactly
  | failed => simpa [endedLoop, Outcome.bind, total] using copy_out_failed uLen pData inbuff _ _ total

end

theorem com_read_short (pData : Bytes) (uLen : UInt32) (events : List SerialEvent) (room : pData.length = uLen.toNat)
    (short : uLen.toNat < 2147483648) :
    Delivered pData uLen events
        ((comReadLoop uLen events ⟨0, List.replicate uLen.toNat 0, 0⟩).bind fun (c, inbuff) => copyOut pData c inbuff) ↔
      (handedOut uLen.toNat events 0).2 ≠ .failed ∧
        ∀ piece ∈ (handedOut uLen.toNat events 0).1, piece.length + 1 ≠ uLen.toNat := by
  have total := handed_out_total uLen.toNat 0 events (Nat.zero_le _)
  rw [Nat.zero_add] at total
  have loop : comReadLoop uLen events ⟨0, List.replicate uLen.toNat 0, 0⟩ = _ :=
    read_loop_short uLen events [] short (Nat.zero_le _)
  rw [loop, List.nil_append, List.length_nil]
  by_cases past : ∃ piece ∈ (handedOut uLen.toNat events 0).1, piece.length + 1 = uLen.toNat
  · rw [if_pos past]
    obtain ⟨piece, member, length⟩ := past
    refine iff_of_false ?_ fun regular => regular.2 piece member length
    rintro ⟨-, fault⟩
    by_cases waits : (handedOut uLen.toNat events 0).2 = .waiting
    · rw [if_pos waits] at fault
      cases fault
    · rw [if_neg waits] at fault
      cases fault
  · have size := zero_filled_length uLen.toNat (handedOut uLen.toNat events 0).1.flatten total
    have front : (zeroFilled uLen.toNat (handedOut uLen.toNat events 0).1.flatten).take
        (handedOut uLen.toNat events 0).1.flatten.length = (handedOut uLen.toNat events 0).1.flatten := List.take_left
    rw [if_neg past, delivered_ended uLen pData _ events room size]
    have inside (piece : Bytes) (member : piece ∈ (handedOut uLen.toNat events 0).1) : piece.length + 1 ≠ uLen.toNat :=
      fun length => past ⟨piece, member, length⟩
    exact and_congr_right fun _ => iff_of_true (fun _ => ⟨by omega, front⟩) inside

theorem com_read_high (pData : Bytes) (uLen : UInt32) (events : List SerialEvent) (room : pData.length = uLen.toNat)
    (high : 2147483648 ≤ uLen.toNat) :
    Delivered pData uLen events
        ((comReadLoop uLen events ⟨0, List.replicate uLen.toNat 0, 0⟩).bind fun (c, inbuff) => copyOut pData c inbuff) ↔
      (handedOut uLen.toNat events 0).2 ≠ .failed ∧
        ((handedOut uLen.toNat events 0).2 ≠ .waiting →
          (handedOut uLen.toNat events 0).1.flatten.length < 2147483648 ∧
          (overlaid (handedOut uLen.toNat events 0).1 (List.replicate uLen.toNat 0)).take
            (handedOut uLen.toNat events 0).1.flatten.length = (handedOut uLen.toNat events 0).1.flatten) := by
  have total := handed_out_total uLen.toNat 0 events (Nat.zero_le _)
  rw [Nat.zero_add] at total
  have loop : comReadLoop uLen events ⟨0, List.replicate uLen.toNat 0, 0⟩ = _ :=
    read_loop_high uLen events 0 (List.replicate uLen.toNat 0) 0 high (Nat.zero_le _) List.length_replicate
  have size : (overlaid (handedOut uLen.toNat events 0).1 (List.replicate uLen.toNat 0)).length = uLen.toNat := by
    rw [overlaid_length _ _ (by rw [List.length_replicate]; exact total), List.length_replicate]
  rw [loop, Nat.zero_add, delivered_ended uLen pData _ events room size]

-- Every length, and every sequence of what select and read give.
theorem com_read_delivered_iff (hComm : Int) (pData : Bytes) (uLen : UInt32) (events : List SerialEvent)
    (opened : 0 ≤ hComm) (room : pData.length = uLen.toNat) :
    Delivered pData uLen events (comReadData hComm pData uLen events) ↔ Regular uLen events := by
  rw [comReadData, if_neg (Int.not_lt.mpr opened), Regular]
  rcases Nat.lt_or_ge uLen.toNat 2147483648 with short | high
  · rw [com_read_short pData uLen events room short]
    exact and_congr_right fun _ =>
      ⟨fun inside => ⟨fun _ => inside, fun high => absurd short (Nat.not_lt.mpr high)⟩, fun both => both.1 short⟩
  · rw [com_read_high pData uLen events room high]
    exact and_congr_right fun _ =>
      ⟨fun same => ⟨fun short => absurd short (Nat.not_lt.mpr high), fun _ => same⟩, fun both => both.2 high⟩

-- Four bytes in two pieces.
theorem com_read_pieces : Delivered [9, 9, 9, 9] 4 [.received [1, 2], .interrupted, .received [3, 4, 5]]
    (comReadData 3 [9, 9, 9, 9] 4 [.received [1, 2], .interrupted, .received [3, 4, 5]]) :=
  (com_read_delivered_iff 3 _ 4 _ (by decide) rfl).mpr
    ⟨by decide, fun _ => by decide, fun high => absurd high (by decide)⟩

-- Three of four bytes in one piece, and an error of the first read.
theorem com_read_overruns : ¬ ∀ (hComm : Int) (pData : Bytes) (uLen : UInt32) (events : List SerialEvent), 0 ≤ hComm →
    1 ≤ uLen.toNat → pData.length = uLen.toNat → Delivered pData uLen events (comReadData hComm pData uLen events) := by
  intro all
  have delivered := (all 3 [9, 9, 9, 9] 4 [.received [1, 2, 3], .timeout] (by decide) (by decide) rfl).2
  exact absurd delivered (by decide)

end Droidlogic.Fbc
