import Mathlib.Data.List.GetD
import Droidlogic.Fbc.Get

set_option autoImplicit false

namespace Droidlogic.Fbc

open Droidlogic.Lib

def cmdFbcRelease : UInt8 := 0x75

-- none is a NULL pointer. Of the protocol only mUpgradeFlag is looked at.
structure Linker where
  pProtocolIns : Option Int
deriving DecidableEq

-- data is the device followed by cmd_buf, and count counts the device.
def Linker.sendCommandToFBC (linker : Linker) (toDev : CommDev) (write_buf cmd_buf : Bytes) (count : Nat) (flag : Int)
    (answer : Answer) : Option Asked :=
  if count < 2 then some ⟨none, some ⟨-1, cmd_buf, none⟩⟩
  else
    match linker.pProtocolIns with
    | none => some ⟨none, some ⟨-1, cmd_buf, none⟩⟩
    | some mUpgradeFlag =>
        if flag = 1 then fbcGetBatchValue mUpgradeFlag toDev cmd_buf (count - 1) answer
        else if cmd_buf.length < count - 1 then none
        else
          (fbcSetBatchValue mUpgradeFlag toDev write_buf (cmd_buf.take (count - 1))).map fun (ret, sent) =>
            ⟨sent, some ⟨ret, cmd_buf, none⟩⟩

-- The linker that is left is the first part of the result.
def sendCommandToFBC (mFbcLinker : Option Linker) (toDev : CommDev) (write_buf cmd_buf : Bytes) (count : Nat) (flag : Int)
    (answer : Answer) : Option (Option Linker × Asked) :=
  match mFbcLinker with
  | none => some (none, ⟨none, some ⟨-1, cmd_buf, none⟩⟩)
  | some linker =>
      match cmd_buf with
      | [] => none
      | id :: _ =>
          if id = cmdFbcRelease then some (none, ⟨none, some ⟨-1, cmd_buf, none⟩⟩)
          else (linker.sendCommandToFBC toDev write_buf cmd_buf count flag answer).map fun sent => (some linker, sent)

structure GotValue where
  ret : Int
  value : UInt32
  mFbcLinker : Option Linker
  received : Option Delivery

-- The bytes behind the command. value_count is not checked, and value is not cleared.
def takeValue (cmd_buf : Bytes) (value : UInt32) (value_count : Int) : UInt32 :=
  if value_count = 1 then (cmd_buf.getD 1 0).toUInt32
  else
    value ||| (cmd_buf.getD 1 0).toUInt32 ||| (cmd_buf.getD 2 0).toUInt32 <<< 8 ||| (cmd_buf.getD 3 0).toUInt32 <<< 16 |||
      (cmd_buf.getD 4 0).toUInt32 <<< 24

-- Behind the device cmd_buf has six bytes: the command, four of the value and one more.
def cfbcGetValueInt (mFbcLinker : Option Linker) (write_buf : Bytes) (fromDev : CommDev) (cmd_id : Int) (value : UInt32)
    (value_count : Int) (answer : Answer) : Option GotValue :=
  (sendCommandToFBC mFbcLinker fromDev write_buf (.ofInt cmd_id :: List.replicate 5 0) 2 1 answer).bind fun (left, sent) =>
    sent.result.map fun got =>
      ⟨got.ret, if -1 < got.ret then takeValue got.cmd_buf value value_count else value, left, got.received⟩

-- Between the command and the checksum.
def Delivery.content (frame : Delivery) : Bytes := (frame.bytes.take (frame.dataLen - 4)).drop 6

def Delivery.carried (frame : Delivery) (value_count : Int) : Option UInt32 :=
  if value_count = 1 then frame.content.head?.map UInt8.toUInt32
  else if 4 ≤ frame.content.length then some (word32 frame.content)
  else none

def valueRequest (cmd_id : Int) : Request := ⟨devNo .serial, (UInt8.ofInt cmd_id).toNat, 2 * 1000 * 1000 * 1000⟩

-- The call writes nowhere but into its buffers, and fails or reports what a reply to its command carries.
def HonestValue (cmd_id : Int) (value : UInt32) (value_count : Int) : Option GotValue → Prop
  | none => False
  | some got =>
      got.ret < 0 ∧ got.value = value ∨
        ∃ frame, got.received = some frame ∧ (valueRequest cmd_id).Matches frame ∧
          frame.carried value_count = some got.value

def Heard (cmd_id : Int) (value : UInt32) (value_count : Int) : Answer → Prop
  | .frame frame _ =>
      (valueRequest cmd_id).Matches frame ∧ frame.dataLen ≤ 15 ∧
        if value_count = 1 then 11 ≤ frame.dataLen
        else 14 ≤ frame.dataLen ∧ value ||| word32 frame.content = word32 frame.content
  | _ => False

-- Nothing is asked at all, or the reply is as long as the value and no longer than cmd_buf.
def Answered (mFbcLinker : Option Linker) (cmd_id : Int) (value : UInt32) (value_count : Int) (answer : Answer) : Prop :=
  match mFbcLinker with
  | none => True
  | some linker =>
      UInt8.ofInt cmd_id = cmdFbcRelease ∨
        match linker.pProtocolIns with
        | none => True
        | some mUpgradeFlag => mUpgradeFlag ≠ 1 ∧ Heard cmd_id value value_count answer

theorem content_length (frame : Delivery) : frame.content.length = frame.dataLen - 10 := by
  have inside := frame.inside
  simp only [Delivery.content, Delivery.bytes, List.length_drop, List.length_take]
  omega

theorem take_value_content (cmd_buf : Bytes) (frame : Delivery) (value : UInt32) (value_count : Int)
    (same : ∀ index, cmd_buf.getD (index + 1) 0 = frame.content.getD index 0) :
    takeValue cmd_buf value value_count =
      if value_count = 1 then (frame.content.getD 0 0).toUInt32 else value ||| word32 frame.content := by
  simp only [takeValue, word32_or, UInt32.or_assoc, ← same]

theorem carried_take_iff (frame : Delivery) (value : UInt32) (value_count : Int) :
    frame.carried value_count =
        some (if value_count = 1 then (frame.content.getD 0 0).toUInt32 else value ||| word32 frame.content) ↔
      if value_count = 1 then 11 ≤ frame.dataLen
      else 14 ≤ frame.dataLen ∧ value ||| word32 frame.content = word32 frame.content := by
  have length := content_length frame
  by_cases one : value_count = 1
  · simp only [Delivery.carried, if_pos one]
    cases content : frame.content with
    | nil =>
        rw [content, List.length_nil] at length
        exact iff_of_false (by simp) (by omega)
    | cons byte rest =>
        rw [content, List.length_cons] at length
        exact iff_of_true (by simp) (by omega)
  · simp only [Delivery.carried, if_neg one]
    by_cases long : 4 ≤ frame.content.length
    · rw [if_pos long, Option.some.injEq, eq_comm]
      exact ⟨fun equal => ⟨by omega, equal⟩, fun both => both.2⟩
    · rw [if_neg long]
      exact iff_of_false (by simp) (by omega)

-- The command, and then what the reply carries.
theorem copied_cons (frame : Delivery) (rest : Bytes) (long : 10 ≤ frame.dataLen) :
    ∃ id, ((frame.bytes ++ rest).drop 5).take (frame.dataLen - 9) = id :: frame.content := by
  have length : frame.bytes.length = frame.dataLen := List.length_take_of_le frame.inside
  have front : ((frame.bytes ++ rest).drop 5).take (frame.dataLen - 9) = (frame.bytes.take (frame.dataLen - 4)).drop 5 := by
    rw [List.drop_append_of_le_length (by omega), List.take_append_of_le_length (by rw [List.length_drop]; omega),
      List.drop_take]
    congr 1
  have inside : 5 < (frame.bytes.take (frame.dataLen - 4)).length := by
    rw [List.length_take]
    omega
  exact ⟨_, front.trans (List.drop_eq_getElem_cons inside)⟩

theorem getD_zeros (bytes : Bytes) (count index : Nat) :
    (bytes ++ List.replicate count 0).getD index 0 = bytes.getD index 0 := by
  by_cases inside : index < bytes.length
  · exact List.getD_append _ _ _ _ inside
  · rw [List.getD_append_right _ _ _ _ (Nat.le_of_not_lt inside), List.getD_eq_getElem?_getD,
      List.getElem?_getD_replicate_default_eq, List.getD_eq_default _ _ (Nat.le_of_not_lt inside)]

theorem copy_back_replied (id : UInt8) (frame : Delivery) (rest : Bytes) (ret : Int) :
    match copyBack (id :: List.replicate 5 0) ⟨ret, frame.dataLen, frame.bytes ++ rest, some frame⟩ with
    | none => 15 < frame.dataLen
    | some got =>
        frame.dataLen ≤ 15 ∧ got.ret = frame.dataLen ∧ got.received = some frame ∧
          ∀ index, got.cmd_buf.getD (index + 1) 0 = frame.content.getD index 0 := by
  have length := content_length frame
  by_cases long : 9 < frame.dataLen
  · obtain ⟨first, copied⟩ := copied_cons frame rest long
    simp only [copyBack, if_pos long, copied]
    by_cases room : frame.dataLen ≤ 15
    · rw [overwrite, if_pos (by simp only [List.length_cons, List.length_replicate]; omega)]
      refine ⟨room, rfl, rfl, fun index => ?_⟩
      simp only [List.take_zero, List.nil_append, Nat.zero_add, List.length_cons, List.drop_succ_cons, List.drop_replicate,
        List.cons_append, List.getD_cons_succ]
      exact getD_zeros frame.content _ index
    · rw [(overwrite_none_iff _ _ _).mpr (by simp only [List.length_cons, List.length_replicate]; omega)]
      exact Nat.lt_of_not_le room
  · have empty : frame.content = [] := List.eq_nil_of_length_eq_zero (by omega)
    simp only [copyBack, if_neg long, empty, List.getD_cons_succ]
    exact ⟨by omega, trivial, trivial, fun index => getD_zeros [] 5 index⟩

theorem get_one (mUpgradeFlag : Int) (id : UInt8) (rest : Bytes) (answer : Answer) (sending : mUpgradeFlag ≠ 1) :
    ∃ sent, fbcGetBatchValue mUpgradeFlag .serial (id :: rest) 1 answer =
      some ⟨sent,
        (sendDataAndWaitReply ⟨devNo .serial, id.toNat, 2 * 1000 * 1000 * 1000⟩ answer 0 (List.replicate 512 0)).bind
          (copyBack (id :: rest))⟩ := by
  obtain ⟨left, built⟩ := request_buffer_some (List.replicate 512 0) [id] List.length_replicate
    (Nat.le_add_left 1 502)
  rw [fbcGetBatchValue, if_neg sending, if_neg (by decide), if_neg (by rw [List.length_cons]; omega)]
  simp only [getSerial, List.take_succ_cons, List.take_zero, built, Option.map_some]
  exact ⟨_, rfl⟩

theorem honest_failed (cmd_id : Int) (value : UInt32) (value_count : Int) (linker : Option Linker) :
    HonestValue cmd_id value value_count (some ⟨-1, value, linker, none⟩) := .inl ⟨Int.negSucc_lt_zero 0, rfl⟩

-- No reply came, and the caller is told that the call worked.
theorem not_honest_unheard (cmd_id : Int) (value got : UInt32) (value_count : Int) (linker : Option Linker) :
    ¬HonestValue cmd_id value value_count (some ⟨0, got, linker, none⟩) := by
  rintro (⟨failed, _⟩ | ⟨_, taken, _⟩)
  · exact Int.lt_irrefl 0 failed
  · cases taken

theorem honest_heard_iff (cmd_id : Int) (value : UInt32) (value_count : Int) (linker : Option Linker) (answer : Answer) :
    HonestValue cmd_id value value_count
      (((sendDataAndWaitReply (valueRequest cmd_id) answer 0 (List.replicate 512 0)).bind
        (copyBack (.ofInt cmd_id :: List.replicate 5 0))).map fun got =>
          ⟨got.ret, if -1 < got.ret then takeValue got.cmd_buf value value_count else value, linker, got.received⟩) ↔
      Heard cmd_id value value_count answer := by
  by_cases replied : ∃ frame short, answer = .frame frame short ∧ (valueRequest cmd_id).Matches frame
  · obtain ⟨frame, short, rfl, matching⟩ := replied
    have copied := copy_back_replied (.ofInt cmd_id) frame ((List.replicate 512 0).drop frame.dataLen) frame.dataLen
    rw [send_replied _ frame short 0 _ List.length_replicate matching, Option.bind_some]
    cases back : copyBack (.ofInt cmd_id :: List.replicate 5 0) ⟨frame.dataLen, frame.dataLen,
        frame.bytes ++ (List.replicate 512 0).drop frame.dataLen, some frame⟩ with
    | none =>
        rw [back] at copied
        refine iff_of_false not_false ?_
        rintro ⟨_, room, _⟩
        exact Nat.not_lt.mpr room copied
    | some got =>
        rw [back] at copied
        obtain ⟨room, ret, received, same⟩ := copied
        rw [Option.map_some, ret, if_pos (by omega), take_value_content _ frame _ _ same]
        constructor
        · rintro (⟨failed, _⟩ | ⟨reply, taken, _, carried⟩)
          · exact absurd failed (Int.not_lt.mpr (Int.natCast_nonneg _))
          · obtain rfl := Option.some.inj (received.symm.trans taken)
            exact ⟨matching, room, (carried_take_iff frame value value_count).mp carried⟩
        · rintro ⟨_, _, whole⟩
          exact .inr ⟨frame, received, matching, (carried_take_iff frame value value_count).mpr whole⟩
  · obtain ⟨ret, silent⟩ := send_silent (valueRequest cmd_id) answer 0 (List.replicate 512 0)
      (fun frame short came matching => replied ⟨frame, short, came, matching⟩)
    rw [silent]
    refine iff_of_false (not_honest_unheard cmd_id value _ value_count linker) ?_
    cases answer with
    | writeFailed ret failed => exact not_false
    | timeout => exact not_false
    | frame frame short => exact fun heard => replied ⟨frame, short, rfl, heard.1⟩

theorem get_value_honest_iff (mFbcLinker : Option Linker) (write_buf : Bytes) (cmd_id : Int) (value : UInt32)
    (value_count : Int) (answer : Answer) :
    HonestValue cmd_id value value_count (cfbcGetValueInt mFbcLinker write_buf .serial cmd_id value value_count answer) ↔
      Answered mFbcLinker cmd_id value value_count answer := by
  cases mFbcLinker with
  | none => exact iff_of_true (honest_failed cmd_id value value_count none) trivial
  | some linker =>
      by_cases release : UInt8.ofInt cmd_id = cmdFbcRelease
      · refine iff_of_true ?_ (.inl release)
        rw [cfbcGetValueInt, sendCommandToFBC, if_pos release]
        exact honest_failed cmd_id value value_count none
      · rw [cfbcGetValueInt, sendCommandToFBC, if_neg release, Linker.sendCommandToFBC, if_neg (by decide)]
        simp only [Answered, release, false_or]
        cases linker.pProtocolIns with
        | none => exact iff_of_true (honest_failed cmd_id value value_count (some linker)) trivial
        | some mUpgradeFlag =>
            simp only [if_true]
            by_cases upgrading : mUpgradeFlag = 1
            · rw [fbcGetBatchValue, if_pos upgrading]
              exact iff_of_false (not_honest_unheard cmd_id value _ value_count (some linker))
                (fun heard => heard.1 upgrading)
            · obtain ⟨sent, called⟩ := get_one mUpgradeFlag (.ofInt cmd_id) (List.replicate 5 0) answer upgrading
              rw [called, and_iff_right upgrading]
              exact honest_heard_iff cmd_id value value_count (some linker) answer

theorem get_value_timed_out :
    ¬HonestValue 0x9e 30 1 (cfbcGetValueInt (some ⟨some 0⟩) (List.replicate 512 0) .serial 0x9e 30 1 .timeout) := by
  obtain ⟨sent, called⟩ := get_one 0 (.ofInt 0x9e) (List.replicate 5 0) .timeout (by decide)
  have result : cfbcGetValueInt (some ⟨some 0⟩) (List.replicate 512 0) .serial 0x9e 30 1 .timeout =
      some ⟨0, 0, some ⟨some 0⟩, none⟩ := by
    rw [cfbcGetValueInt, sendCommandToFBC, if_neg (by decide), Linker.sendCommandToFBC, if_neg (by decide)]
    simp only [if_true]
    rw [called]
    rfl
  rw [result]
  exact not_honest_unheard 0x9e 30 0 1 (some ⟨some 0⟩)

end Droidlogic.Fbc
