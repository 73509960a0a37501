import Droidlogic.Fbc.Upgrade
import Droidlogic.Lib.WordSum

set_option autoImplicit false

namespace Droidlogic.Fbc

open Droidlogic.Lib

-- CC_UPGRADE_MAX_BLOCK_LEN + 4
def CC_UPGRADE_DATA_BUF_SIZE : Nat := 0x10004

-- What readFile has to give, and whether the timeout is over behind it.
structure StreamRead where
  come : Bytes
  late : Bool
deriving DecidableEq

-- bufIndex is always haveRead.
def uartReadStream (rd_max_len : Nat) : List StreamRead → Bytes → Nat → Outcome (Bytes × Nat)
  | [], _, _ => .waiting
  | read :: reads, retData, haveRead =>
      let readBytes := read.come.take (rd_max_len - haveRead)
      match overwrite retData haveRead readBytes with
      | none => .fault
      | some retData =>
          if haveRead + readBytes.length = rd_max_len ∨ read.late = true then
            .done (retData, haveRead + readBytes.length)
          else uartReadStream rd_max_len reads retData (haveRead + readBytes.length)

-- for (int i = 0; i < ret_count - 3; i++)
def scanAnswer (mDataBuf : Bytes) (ret_count : Nat) : Bool :=
  (List.range (ret_count - 3)).any fun i =>
    mDataBuf.getD i 0 = 0x5A && mDataBuf.getD (i + 1) 0 = 0x5A && mDataBuf.getD (i + 2) 0 = 0x5A

-- The bytes that come while so many have been read before.
def streamed (rd_max_len : Nat) : List StreamRead → Nat → Bytes
  | [], _ => []
  | read :: reads, haveRead =>
      let readBytes := read.come.take (rd_max_len - haveRead)
      if haveRead + readBytes.length = rd_max_len ∨ read.late = true then readBytes
      else readBytes ++ streamed rd_max_len reads (haveRead + readBytes.length)

theorem stream_step (rd_max_len : Nat) (read : StreamRead) (reads : List StreamRead) (got : Bytes)
    (inside : got.length ≤ rd_max_len) :
    uartReadStream rd_max_len (read :: reads) (zeroFilled rd_max_len got) got.length =
      if got.length + (read.come.take (rd_max_len - got.length)).length = rd_max_len ∨ read.late = true then
        .done (zeroFilled rd_max_len (got ++ read.come.take (rd_max_len - got.length)),
          got.length + (read.come.take (rd_max_len - got.length)).length)
      else uartReadStream rd_max_len reads (zeroFilled rd_max_len (got ++ read.come.take (rd_max_len - got.length)))
        (got.length + (read.come.take (rd_max_len - got.length)).length) := by
  have fits : got.length + (read.come.take (rd_max_len - got.length)).length ≤ rd_max_len := by
    rw [List.length_take]
    omega
  simp only [uartReadStream, overwrite_zero_filled rd_max_len got _ fits]

-- The buffer holds the bytes in the order they came, and haveRead is their number.
theorem stream_received (rd_max_len : Nat) (reads : List StreamRead) (got : Bytes) (inside : got.length ≤ rd_max_len) :
    uartReadStream rd_max_len reads (zeroFilled rd_max_len got) got.length = .waiting ∨
      uartReadStream rd_max_len reads (zeroFilled rd_max_len got) got.length =
        .done (zeroFilled rd_max_len (got ++ streamed rd_max_len reads got.length),
          (got ++ streamed rd_max_len reads got.length).length) := by
  induction reads generalizing got with
  | nil => exact .inl rfl
  | cons read reads ih =>
      have fits : (got ++ read.come.take (rd_max_len - got.length)).length ≤ rd_max_len := by
        rw [List.length_append, List.length_take]
        omega
      rw [stream_step rd_max_len read reads got inside, streamed]
      by_cases ends : got.length + (read.come.take (rd_max_len - got.length)).length = rd_max_len ∨ read.late = true
      · rw [if_pos ends, if_pos ends, ← List.length_append]
        exact .inr rfl
      · rw [if_neg ends, if_neg ends, ← List.length_append, ← List.append_assoc]
        exact ih _ fits

theorem few_bytes (answer : Bytes) (few : ∀ a b c d rest, answer = a :: b :: c :: d :: rest → False) :
    answer.length < 4 := by
  by_contra long
  obtain ⟨a, b, c, d, rest, whole⟩ := four_bytes answer (Nat.le_of_not_lt long)
  exact few a b c d rest whole

theorem short_silent (answer : Bytes) (short : answer.length < 4) : acknowledged answer = false := by
  match answer, short with
  | [], _ => rfl
  | [_], _ => rfl
  | [_, _], _ => rfl
  | [_, _, _], _ => rfl
  | _ :: _ :: _ :: _ :: rest, tooLong => exact absurd tooLong (by simp)

theorem short_absent (answer : Bytes) (short : answer.length < 4) : ¬[0x5a, 0x5a, 0x5a] <:+: answer.dropLast := by
  intro found
  have room : 3 ≤ answer.dropLast.length := found.length_le
  rw [List.length_dropLast] at room
  omega

-- The last match that the scan looks at has a byte behind it.
theorem acknowledged_iff (answer : Bytes) : acknowledged answer = true ↔ [0x5a, 0x5a, 0x5a] <:+: answer.dropLast := by
  induction answer using acknowledged.induct with
  | case1 a b c d rest ih =>
      have front : [0x5a, 0x5a, 0x5a] <+: a :: (b :: c :: d :: rest).dropLast ↔ (a = 0x5a ∧ b = 0x5a) ∧ c = 0x5a := by
        simp [List.cons_prefix_cons, eq_comm, and_assoc]
      rw [acknowledged, Bool.or_eq_true, ih, Bool.and_eq_true, Bool.and_eq_true, decide_eq_true_eq, decide_eq_true_eq,
        decide_eq_true_eq, ← front]
      exact List.infix_cons_iff.symm
  | case2 answer few =>
      have short := few_bytes answer few
      exact iff_of_false (by rw [short_silent answer short]; decide) (short_absent answer short)

theorem scan_acknowledged (answer rest : Bytes) : scanAnswer (answer ++ rest) answer.length = acknowledged answer := by
  induction answer using acknowledged.induct with
  | case1 a b c d tail ih =>
      have count : (a :: b :: c :: d :: tail).length - 3 = (b :: c :: d :: tail).length - 3 + 1 := rfl
      rw [acknowledged, ← ih, scanAnswer, count, List.range_succ_eq_map, List.any_cons, List.any_map]
      rfl
  | case2 answer few =>
      have short := few_bytes answer few
      have none_left : answer.length - 3 = 0 := Nat.sub_eq_zero_of_le (Nat.le_of_lt_succ short)
      rw [short_silent answer short, scanAnswer, none_left]
      rfl

-- A round whose three sends went through, with the answer that uartReadStream left.
def Accepts (file : UpgradeFile) (mUpgradeBlockSize : Int) (t : Transfer) (answer : Bytes) : Prop :=
  ∃ next block, threadLoopStep file mUpgradeBlockSize t (.exchange true true true answer) = some next ∧
    next.acked = t.acked ++ [block]

theorem accepts_iff (file : UpgradeFile) (mUpgradeBlockSize : Int) (t : Transfer) (answer data : Bytes)
    (block : t.position = .block) (sends : t.ret = true)
    (readable : file.slice t.start (t.blockCount mUpgradeBlockSize) = some data) :
    Accepts file mUpgradeBlockSize t answer ↔ acknowledged answer = true := by
  have step : threadLoopStep file mUpgradeBlockSize t (.exchange true true true answer) =
      if acknowledged answer then
        some (t.blockWritten ⟨t.start, t.blockCount mUpgradeBlockSize,
          upgradeCmd t.start (t.blockCount mUpgradeBlockSize), data, le32 (calcrc32 0 data), answer⟩)
      else some t.blockRefused := by
    simp [threadLoopStep, block, Transfer.exchangeBlock, readable, sends]
  rw [Accepts, step]
  by_cases found : acknowledged answer = true
  · rw [if_pos found]
    exact iff_of_true ⟨_, _, rfl, rfl⟩ found
  · rw [if_neg found]
    refine iff_of_false ?_ found
    rintro ⟨next, block, refused, added⟩
    have same : t.blockRefused.acked = t.acked := by
      rw [Transfer.blockRefused]
      split
      · rfl
      · rfl
    rw [Option.some.injEq] at refused
    rw [← refused, same] at added
    exact absurd (congrArg List.length added) (by simp)

-- Every answer that uartReadStream leaves in the cleared mDataBuf.
theorem acknowledgement_iff (file : UpgradeFile) (mUpgradeBlockSize : Int) (t : Transfer) (data mDataBuf : Bytes)
    (reads : List StreamRead) (ret_count : Nat) (block : t.position = .block) (sends : t.ret = true)
    (readable : file.slice t.start (t.blockCount mUpgradeBlockSize) = some data)
    (came : uartReadStream CC_UPGRADE_DATA_BUF_SIZE reads (zeroFilled CC_UPGRADE_DATA_BUF_SIZE []) 0 =
      .done (mDataBuf, ret_count)) :
    let answer := streamed CC_UPGRADE_DATA_BUF_SIZE reads 0
    ret_count = answer.length ∧ mDataBuf.take ret_count = answer ∧
      (scanAnswer mDataBuf ret_count = true ↔ Accepts file mUpgradeBlockSize t answer) ∧
      ((Accepts file mUpgradeBlockSize t answer ↔ [0x5a, 0x5a, 0x5a] <:+: answer) ↔
        ([0x5a, 0x5a, 0x5a] <:+: answer → [0x5a, 0x5a, 0x5a] <:+: answer.dropLast)) := by
  intro answer
  have accepts := accepts_iff file mUpgradeBlockSize t answer data block sends readable
  rcases stream_received CC_UPGRADE_DATA_BUF_SIZE reads [] (Nat.zero_le _) with waits | done
  · cases waits.symm.trans came
  · have result := came.symm.trans done
    simp only [Outcome.done.injEq, Prod.mk.injEq, List.nil_append, List.length_nil] at result
    obtain ⟨rfl, rfl⟩ := result
    refine ⟨rfl, List.take_left, ?_, ?_⟩
    · rw [accepts, zeroFilled, scan_acknowledged]
    · rw [accepts, acknowledged_iff]
      have earlier : [0x5a, 0x5a, 0x5a] <:+: answer.dropLast → [0x5a, 0x5a, 0x5a] <:+: answer :=
        fun found => found.trans (List.dropLast_prefix answer).isInfix
      exact ⟨fun same => same.mpr, fun before => ⟨earlier, before⟩⟩

-- Any bytes that fit can be the answer.
theorem answer_comes (answer : Bytes) (fits : answer.length ≤ CC_UPGRADE_DATA_BUF_SIZE) :
    uartReadStream CC_UPGRADE_DATA_BUF_SIZE [⟨answer, true⟩] (zeroFilled CC_UPGRADE_DATA_BUF_SIZE []) 0 =
      .done (zeroFilled CC_UPGRADE_DATA_BUF_SIZE answer, answer.length) := by
  have step := stream_step CC_UPGRADE_DATA_BUF_SIZE ⟨answer, true⟩ [] [] (Nat.zero_le _)
  have whole : answer.take (CC_UPGRADE_DATA_BUF_SIZE - 0) = answer := List.take_of_length_le fits
  rw [List.length_nil, if_pos (.inr rfl), whole, List.nil_append, Nat.zero_add] at step
  exact step

-- The transfer of a file that prepare accepts, at its first block.
def sampleTransfer : Transfer :=
  (run (threadLoopStep sampleFile 0x10000) (beginTransfer (initBlocksInfo sampleFile)) [.check false, .check false]).getD
    (beginTransfer [])

theorem sample_block : sampleTransfer.position = .block ∧ sampleTransfer.ret = true := by decide +kernel

theorem sample_readable : ∃ data, sampleFile.slice sampleTransfer.start (sampleTransfer.blockCount 0x10000) = some data :=
  Option.isSome_iff_exists.mp (by decide +kernel)

theorem acknowledgement_followed :
    Accepts sampleFile 0x10000 sampleTransfer [0x5a, 0x5a, 0x5a, 0x0a] ↔
      [0x5a, 0x5a, 0x5a] <:+: ([0x5a, 0x5a, 0x5a, 0x0a] : Bytes) := by
  obtain ⟨data, readable⟩ := sample_readable
  exact (acknowledgement_iff sampleFile 0x10000 sampleTransfer data _ [⟨[0x5a, 0x5a, 0x5a, 0x0a], true⟩] _ sample_block.1
    sample_block.2 readable (answer_comes [0x5a, 0x5a, 0x5a, 0x0a] (by decide))).2.2.2.mpr fun _ => by decide

-- The acknowledgement is the whole answer.
theorem acknowledgement_missed :
    ¬ ∀ (file : UpgradeFile) (mUpgradeBlockSize : Int) (t : Transfer) (data mDataBuf : Bytes) (reads : List StreamRead)
      (ret_count : Nat), t.position = .block → t.ret = true →
      file.slice t.start (t.blockCount mUpgradeBlockSize) = some data →
      uartReadStream CC_UPGRADE_DATA_BUF_SIZE reads (zeroFilled CC_UPGRADE_DATA_BUF_SIZE []) 0 =
        .done (mDataBuf, ret_count) →
      (Accepts file mUpgradeBlockSize t (mDataBuf.take ret_count) ↔ [0x5a, 0x5a, 0x5a] <:+: mDataBuf.take ret_count) := by
  intro all
  obtain ⟨data, readable⟩ := sample_readable
  have came := answer_comes [0x5a, 0x5a, 0x5a] (by decide)
  have same := all sampleFile 0x10000 sampleTransfer data _ _ _ sample_block.1 sample_block.2 readable came
  have taken : (zeroFilled CC_UPGRADE_DATA_BUF_SIZE [0x5a, 0x5a, 0x5a]).take ([0x5a, 0x5a, 0x5a] : Bytes).length =
      [0x5a, 0x5a, 0x5a] := List.take_left
  rw [taken, accepts_iff sampleFile 0x10000 sampleTransfer _ data sample_block.1 sample_block.2 readable] at same
  exact absurd (same.mpr List.infix_rfl) (by decide)

end Droidlogic.Fbc
