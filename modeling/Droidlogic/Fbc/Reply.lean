import Droidlogic.Lib.Run
import Droidlogic.Fbc.Protocol

set_option autoImplicit false

namespace Droidlogic.Fbc

open Droidlogic.Lib

def devNo : CommDev → Int
  | .cec => 0
  | .serial => 1

-- One call of processData: readFrameBuf and the length that was read into it.
structure Delivery where
  fromDev : CommDev
  pData : Bytes
  dataLen : Nat
  positive : 0 < dataLen
  inside : dataLen ≤ pData.length
deriving DecidableEq

def Delivery.cmd (frame : Delivery) : Int :=
  match frame.fromDev with
  | .cec => (frame.pData.getD 1 0).toNat
  | .serial => (frame.pData.getD 5 0).toNat

def Delivery.bytes (frame : Delivery) : Bytes := frame.pData.take frame.dataLen

structure Request where
  waitForDevno : Int
  waitForCmd : Int
  timeout : Int
deriving DecidableEq

def Request.Matches (request : Request) (frame : Delivery) : Prop :=
  request.waitForDevno = devNo frame.fromDev ∧ request.waitForCmd = frame.cmd

instance (request : Request) (frame : Delivery) : Decidable (request.Matches frame) := inferInstanceAs (Decidable (_ ∧ _))

-- The next statement of sendDataAndWaitReply; copy has read the length, clear
-- has filled pReData.
inductive Requester
  | write
  | setDevNo
  | setCmd
  | setTimeOut
  | clearLen
  | setData
  | lock
  | waiting
  | test
  | readLen
  | copy (length : Nat)
  | clear (length : Nat) (pReData : Bytes)
  | resetDevNo
  | resetCmd
  | returned (ret : Int) (pReData : Bytes)
deriving DecidableEq

inductive Reader
  | idle
  | testDevNo (frame : Delivery)
  | testCmd (frame : Delivery)
  | setLen (frame : Delivery)
  | copy (frame : Delivery)
  | signal (frame : Delivery)
  | special (frame : Delivery)
deriving DecidableEq

-- mReplyList, the buffer it points to, and the two threads. replyData tells
-- whether the pointer has been set; wild records a copy through it when it was not.
structure Exchange where
  waitDevNo : Int
  waitCmd : Int
  waitTimeOut : Int
  reDataLen : Nat
  replyData : Bool
  mpRevDataBuf : Bytes
  requester : Requester
  reader : Reader
  unsolicited : List Delivery
  wild : Bool
deriving DecidableEq

inductive Event
  | write (ret : Int)
  | request
  | timeout
  | deliver (frame : Delivery)
  | process
deriving DecidableEq

def requestStep (request : Request) (state : Exchange) : Option Exchange :=
  match state.requester with
  | .setDevNo => some { state with waitDevNo := request.waitForDevno, requester := .setCmd }
  | .setCmd => some { state with waitCmd := request.waitForCmd, requester := .setTimeOut }
  | .setTimeOut => some { state with waitTimeOut := request.timeout, requester := .clearLen }
  | .clearLen => some { state with reDataLen := 0, requester := .setData }
  | .setData => some { state with replyData := true, requester := .lock }
  | .lock => some { state with requester := .waiting }
  | .test => some { state with requester := if 0 < state.reDataLen then .readLen else .resetDevNo }
  | .readLen => some { state with requester := .copy state.reDataLen }
  | .copy length => some { state with requester := .clear length (state.mpRevDataBuf.take state.reDataLen) }
  | .clear length pReData => some { state with reDataLen := 0, requester := .returned length pReData }
  | .resetDevNo => some { state with waitDevNo := -1, requester := .resetCmd }
  | .resetCmd => some { state with waitCmd := 0xff, requester := .returned (-1) [] }
  | .write => none
  | .waiting => none
  | .returned _ _ => none

-- The signal wakes a requester that waits and is lost otherwise; the reader
-- takes no lock. A frame that is no reply is dropped (CEC) or logged and, as a
-- key, passed on (serial).
def processStep (state : Exchange) : Option Exchange :=
  match state.reader with
  | .idle => none
  | .testDevNo frame =>
      some { state with reader := if state.waitDevNo = devNo frame.fromDev then .testCmd frame else .special frame }
  | .testCmd frame =>
      some { state with reader := if state.waitCmd = frame.cmd then .setLen frame else .special frame }
  | .setLen frame => some { state with reDataLen := frame.dataLen, reader := .copy frame }
  | .copy frame =>
      some { state with
        mpRevDataBuf := if state.replyData then frame.bytes ++ state.mpRevDataBuf.drop frame.dataLen else state.mpRevDataBuf
        wild := state.wild || !state.replyData
        reader := .signal frame }
  | .signal _ =>
      some { state with requester := if state.requester = .waiting then .test else state.requester, reader := .idle }
  | .special frame => some { state with unsolicited := frame :: state.unsolicited, reader := .idle }

def exchangeStep (request : Request) (state : Exchange) : Event → Option Exchange
  | .write ret =>
      if state.requester = .write then
        some { state with requester := if ret < 0 then .returned ret [] else .setDevNo }
      else none
  | .request => requestStep request state
  | .timeout => if state.requester = .waiting then some { state with requester := .test } else none
  | .deliver frame => if state.reader = .idle then some { state with reader := .testDevNo frame } else none
  | .process => processStep state

def Published (request : Request) (state : Exchange) : Prop :=
  match state.requester with
  | .write => True
  | .setDevNo => True
  | .setCmd => state.waitDevNo = request.waitForDevno
  | .setTimeOut => state.waitDevNo = request.waitForDevno ∧ state.waitCmd = request.waitForCmd
  | .clearLen => state.waitDevNo = request.waitForDevno ∧ state.waitCmd = request.waitForCmd
  | .setData => state.waitDevNo = request.waitForDevno ∧ state.waitCmd = request.waitForCmd
  | .lock => state.waitDevNo = request.waitForDevno ∧ state.waitCmd = request.waitForCmd
  | .waiting => state.waitDevNo = request.waitForDevno ∧ state.waitCmd = request.waitForCmd
  | .test => state.waitDevNo = request.waitForDevno ∧ state.waitCmd = request.waitForCmd
  | _ => False

-- Until the reply is delivered: the frame is written, no other frame with the
-- command comes in after that, and the requester does not look at reDataLen yet.
def BeforeReply (request : Request) (state : Exchange) : Event → Prop
  | .write ret => 0 ≤ ret
  | .request => state.requester ≠ .test
  | .deliver frame => state.requester ≠ .write → ¬ request.Matches frame
  | _ => True

instance (request : Request) (state : Exchange) : ∀ event, Decidable (BeforeReply request state event)
  | .write ret => inferInstanceAs (Decidable (0 ≤ ret))
  | .request => inferInstanceAs (Decidable (state.requester ≠ .test))
  | .timeout => isTrue trivial
  | .deliver frame => inferInstanceAs (Decidable (state.requester ≠ .write → ¬ request.Matches frame))
  | .process => isTrue trivial

-- The reader may take its next statement with the reply: it meets the published
-- fields, sets reDataLen after it was cleared and copies when the pointer is set.
def ReaderMay (request : Request) (state : Exchange) : Reader → Prop
  | .testDevNo frame => request.Matches frame → state.waitDevNo = request.waitForDevno
  | .testCmd frame => request.Matches frame → state.waitCmd = request.waitForCmd
  | .setLen _ => state.requester ∉ [.setDevNo, .setCmd, .setTimeOut, .clearLen]
  | .copy _ => state.replyData = true
  | _ => True

instance (request : Request) (state : Exchange) : ∀ reader, Decidable (ReaderMay request state reader)
  | .idle => isTrue trivial
  | .testDevNo frame => inferInstanceAs (Decidable (request.Matches frame → state.waitDevNo = request.waitForDevno))
  | .testCmd frame => inferInstanceAs (Decidable (request.Matches frame → state.waitCmd = request.waitForCmd))
  | .setLen _ => inferInstanceAs (Decidable (state.requester ∉ _))
  | .copy _ => inferInstanceAs (Decidable (state.replyData = true))
  | .signal _ => isTrue trivial
  | .special _ => isTrue trivial

-- The requester looks at reDataLen when the reader has set it, and at the data
-- when the reader has copied them.
def LengthReady (request : Request) : Reader → Prop
  | .testDevNo frame => ¬ request.Matches frame
  | .testCmd frame => ¬ request.Matches frame
  | .setLen frame => ¬ request.Matches frame
  | _ => True

def DataReady : Reader → Prop
  | .copy _ => False
  | _ => True

instance (request : Request) : ∀ reader, Decidable (LengthReady request reader)
  | .idle => isTrue trivial
  | .testDevNo frame => inferInstanceAs (Decidable (¬ request.Matches frame))
  | .testCmd frame => inferInstanceAs (Decidable (¬ request.Matches frame))
  | .setLen frame => inferInstanceAs (Decidable (¬ request.Matches frame))
  | .copy _ => isTrue trivial
  | .signal _ => isTrue trivial
  | .special _ => isTrue trivial

instance : ∀ reader, Decidable (DataReady reader)
  | .idle => isTrue trivial
  | .testDevNo _ => isTrue trivial
  | .testCmd _ => isTrue trivial
  | .setLen _ => isTrue trivial
  | .copy _ => isFalse fun impossible => impossible
  | .signal _ => isTrue trivial
  | .special _ => isTrue trivial

def Requester.isCopy : Requester → Bool
  | .copy _ => true
  | _ => false

-- From the delivery of the reply on; no second frame with the command comes in.
def AfterReply (request : Request) (state : Exchange) : Event → Prop
  | .deliver frame => ¬ request.Matches frame
  | .process => ReaderMay request state state.reader
  | .request => (state.requester = .test → LengthReady request state.reader) ∧
      (state.requester.isCopy = true → DataReady state.reader)
  | _ => True

instance (request : Request) (state : Exchange) : ∀ event, Decidable (AfterReply request state event)
  | .write _ => isTrue trivial
  | .request => inferInstanceAs (Decidable (_ ∧ _))
  | .timeout => isTrue trivial
  | .deliver frame => inferInstanceAs (Decidable (¬ request.Matches frame))
  | .process => inferInstanceAs (Decidable (ReaderMay request state state.reader))

theorem published_request (request : Request) (state next : Exchange) (published : Published request state)
    (early : state.requester ≠ .test) (stepped : requestStep request state = some next) :
    Published request next ∧ next.requester ≠ .write := by
  unfold requestStep at stepped
  cases phase : state.requester <;>
    simp only [phase, Option.some.injEq, reduceCtorEq] at stepped <;>
    simp only [Published, phase, ne_eq, not_true_eq_false] at published early <;>
    subst next
  · exact ⟨rfl, by simp⟩
  · exact ⟨⟨published, rfl⟩, by simp⟩
  all_goals exact ⟨published, by simp⟩

-- The reader touches neither of the two published fields and moves the requester
-- only out of its wait.
theorem process_frame (state next : Exchange) (stepped : processStep state = some next) :
    next.waitDevNo = state.waitDevNo ∧ next.waitCmd = state.waitCmd ∧
      (next.requester = state.requester ∨ (state.requester = .waiting ∧ next.requester = .test)) := by
  unfold processStep at stepped
  cases phase : state.reader <;> simp only [phase, Option.some.injEq, reduceCtorEq] at stepped <;> subst next
  case signal =>
    refine ⟨rfl, rfl, ?_⟩
    by_cases waits : state.requester = .waiting
    · exact .inr ⟨waits, if_pos waits⟩
    · exact .inl (if_neg waits)
  all_goals exact ⟨rfl, rfl, .inl rfl⟩

theorem published_process (request : Request) (state next : Exchange) (published : Published request state)
    (stepped : processStep state = some next) : Published request next := by
  obtain ⟨devNo, cmd, same | ⟨waits, woken⟩⟩ := process_frame state next stepped
  · simpa only [Published, devNo, cmd, same] using published
  · simpa only [Published, devNo, cmd, waits, woken] using published

theorem published_step (request : Request) (state next : Exchange) (event : Event) (published : Published request state)
    (guard : BeforeReply request state event) (stepped : exchangeStep request state event = some next) :
    Published request next := by
  cases event with
  | write ret =>
      simp only [exchangeStep] at stepped
      split at stepped
      · simp only [BeforeReply] at guard
        rw [if_neg (by omega), Option.some.injEq] at stepped
        subst next
        trivial
      · simp at stepped
  | request => exact (published_request request state next published guard stepped).1
  | timeout =>
      simp only [exchangeStep] at stepped
      split at stepped
      · next waits =>
          rw [Option.some.injEq] at stepped
          subst next
          simpa only [Published, waits] using published
      · simp at stepped
  | deliver frame =>
      simp only [exchangeStep] at stepped
      split at stepped
      · rw [Option.some.injEq] at stepped
        subst next
        exact published
      · simp at stepped
  | process => exact published_process request state next published stepped

def Counted (request : Request) (reply : Delivery) (state : Exchange) : Prop :=
  state.waitDevNo = request.waitForDevno ∧ state.waitCmd = request.waitForCmd ∧ state.reDataLen = reply.dataLen ∧
    match state.requester with
    | .setData => True
    | .lock => True
    | .waiting => True
    | .test => True
    | .readLen => True
    | .copy length => length = reply.dataLen
    | _ => False

def Stored (request : Request) (reply : Delivery) (state : Exchange) : Prop :=
  match state.requester with
  | .clear length pReData => length = reply.dataLen ∧ pReData = reply.bytes ∧
      state.waitDevNo = request.waitForDevno ∧ state.waitCmd = request.waitForCmd
  | .returned ret pReData => ret = reply.dataLen ∧ pReData = reply.bytes ∧
      state.waitDevNo = request.waitForDevno ∧ state.waitCmd = request.waitForCmd
  | _ => Counted request reply state ∧ state.mpRevDataBuf.take reply.dataLen = reply.bytes

def Quiet (request : Request) : Reader → Prop
  | .testDevNo frame => ¬ request.Matches frame
  | .testCmd frame => ¬ request.Matches frame ∧ request.waitForDevno = devNo frame.fromDev
  | .setLen _ => False
  | .copy _ => False
  | .special frame => ¬ request.Matches frame
  | _ => True

inductive Stage (request : Request) (reply : Delivery) (state : Exchange) : Prop
  | tested : state.reader = .testDevNo reply ∨ state.reader = .testCmd reply ∨ state.reader = .setLen reply →
      Published request state → state.requester ≠ .write → Stage request reply state
  | counted : state.reader = .copy reply → Counted request reply state → Stage request reply state
  | stored : Quiet request state.reader → Stored request reply state → Stage request reply state

-- Since the delivery only frames without the command were treated as unsolicited.
structure Underway (request : Request) (reply : Delivery) (delivered state : Exchange) : Prop where
  stage : Stage request reply state
  others : ∃ frames, state.unsolicited = frames ++ delivered.unsolicited ∧ ∀ frame ∈ frames, ¬ request.Matches frame
  wild : state.wild = delivered.wild

theorem request_unsolicited (request : Request) (state next : Exchange) (stepped : requestStep request state = some next) :
    next.reader = state.reader ∧ next.unsolicited = state.unsolicited ∧ next.wild = state.wild ∧
      next.mpRevDataBuf = state.mpRevDataBuf := by
  unfold requestStep at stepped
  cases phase : state.requester <;> simp only [phase, Option.some.injEq, reduceCtorEq] at stepped <;> subst next <;>
    exact ⟨rfl, rfl, rfl, rfl⟩

theorem counted_request (request : Request) (reply : Delivery) (state next : Exchange)
    (counted : Counted request reply state) (early : ∀ length, state.requester ≠ .copy length)
    (stepped : requestStep request state = some next) : Counted request reply next := by
  have positive := reply.positive
  obtain ⟨devNo, cmd, length, place⟩ := counted
  unfold requestStep at stepped
  cases phase : state.requester <;> simp only [phase, Option.some.injEq, reduceCtorEq] at stepped place
  case setData => exact stepped ▸ ⟨devNo, cmd, length, trivial⟩
  case lock => exact stepped ▸ ⟨devNo, cmd, length, trivial⟩
  case test =>
    rw [if_pos (by omega)] at stepped
    exact stepped ▸ ⟨devNo, cmd, length, trivial⟩
  case readLen => exact stepped ▸ ⟨devNo, cmd, length, length⟩
  case copy => exact absurd phase (early _)

theorem stored_of_counted (request : Request) (reply : Delivery) (state : Exchange) (counted : Counted request reply state)
    (data : state.mpRevDataBuf.take reply.dataLen = reply.bytes) : Stored request reply state := by
  unfold Stored
  split
  · next place => simp [Counted, place] at counted
  · next place => simp [Counted, place] at counted
  · exact ⟨counted, data⟩

theorem stored_request (request : Request) (reply : Delivery) (state next : Exchange)
    (stored : Stored request reply state) (stepped : requestStep request state = some next) : Stored request reply next := by
  by_cases copying : ∃ length, state.requester = .copy length
  · obtain ⟨length, phase⟩ := copying
    simp only [Stored, Counted, phase] at stored
    obtain ⟨⟨devNo, cmd, count, same⟩, data⟩ := stored
    simp only [requestStep, phase, Option.some.injEq] at stepped
    subst next
    exact ⟨same, by rw [count, data], devNo, cmd⟩
  · have early (length : Nat) : state.requester ≠ .copy length := fun phase => copying ⟨length, phase⟩
    cases phase : state.requester with
    | clear length pReData =>
        simp only [Stored, phase] at stored
        simp only [requestStep, phase, Option.some.injEq] at stepped
        subst next
        exact ⟨by rw [stored.1], stored.2⟩
    | returned ret pReData => simp [requestStep, phase] at stepped
    | copy length => exact absurd phase (early length)
    | _ =>
        simp only [Stored, phase] at stored
        have counted := counted_request request reply state next stored.1 early stepped
        have buffer := (request_unsolicited request state next stepped).2.2.2
        exact stored_of_counted request reply next counted (by rw [buffer]; exact stored.2)

theorem stage_request (request : Request) (reply : Delivery) (state next : Exchange) (matching : request.Matches reply)
    (stage : Stage request reply state) (guard : AfterReply request state .request)
    (stepped : requestStep request state = some next) : Stage request reply next := by
  obtain ⟨reader, _⟩ := request_unsolicited request state next stepped
  cases stage with
  | tested testing published written =>
      have early : state.requester ≠ .test := by
        intro phase
        have ready := guard.1 phase
        rcases testing with at_ | at_ | at_
        all_goals rw [at_] at ready; exact ready matching
      obtain ⟨publishedNext, writtenNext⟩ := published_request request state next published early stepped
      exact .tested (by rwa [reader]) publishedNext writtenNext
  | counted copying counted =>
      have early (length : Nat) : state.requester ≠ .copy length := by
        intro phase
        have ready := guard.2 (by rw [phase]; rfl)
        rwa [copying] at ready
      exact .counted (by rwa [reader]) (counted_request request reply state next counted early stepped)
  | stored quiet stored =>
      exact .stored (by rwa [reader]) (stored_request request reply state next stored stepped)

theorem counted_woken (request : Request) (reply : Delivery) (state next : Exchange) (counted : Counted request reply state)
    (waits : state.requester = .waiting) (woken : next.requester = .test) (devNo : next.waitDevNo = state.waitDevNo)
    (cmd : next.waitCmd = state.waitCmd) (length : next.reDataLen = state.reDataLen) : Counted request reply next := by
  simpa only [Counted, waits, woken, devNo, cmd, length] using counted

theorem stage_timeout (request : Request) (reply : Delivery) (state : Exchange) (stage : Stage request reply state)
    (waits : state.requester = .waiting) : Stage request reply { state with requester := .test } := by
  cases stage with
  | tested testing published written =>
      refine .tested testing ?_ (by simp)
      simpa only [Published, waits] using published
  | counted copying counted => exact .counted copying (counted_woken request reply state _ counted waits rfl rfl rfl rfl)
  | stored quiet stored =>
      simp only [Stored, waits] at stored
      exact .stored quiet ⟨counted_woken request reply state _ stored.1 waits rfl rfl rfl rfl, stored.2⟩

theorem stored_fields (request : Request) (reply : Delivery) (state : Exchange) (stored : Stored request reply state) :
    state.waitDevNo = request.waitForDevno ∧ state.waitCmd = request.waitForCmd := by
  unfold Stored at stored
  split at stored
  · exact stored.2.2
  · exact stored.2.2
  · exact ⟨stored.1.1, stored.1.2.1⟩

theorem underway_deliver (request : Request) (reply frame : Delivery) (delivered state : Exchange)
    (underway : Underway request reply delivered state) (different : ¬ request.Matches frame)
    (idle : state.reader = .idle) : Underway request reply delivered { state with reader := .testDevNo frame } := by
  refine ⟨?_, underway.others, underway.wild⟩
  cases underway.stage with
  | tested testing _ _ => simp [idle] at testing
  | counted copying _ => simp [idle] at copying
  | stored quiet stored => exact .stored different stored

theorem tested_process (request : Request) (reply : Delivery) (state next : Exchange) (matching : request.Matches reply)
    (testing : state.reader = .testDevNo reply ∨ state.reader = .testCmd reply ∨ state.reader = .setLen reply)
    (published : Published request state) (written : state.requester ≠ .write)
    (guard : AfterReply request state .process) (stepped : processStep state = some next) :
    Stage request reply next ∧ next.unsolicited = state.unsolicited ∧ next.wild = state.wild := by
  rcases testing with at_ | at_ | at_
  · simp only [AfterReply, at_, ReaderMay] at guard
    simp only [processStep, at_] at stepped
    rw [if_pos ((guard matching).trans matching.1), Option.some.injEq] at stepped
    exact stepped ▸ ⟨.tested (.inr (.inl rfl)) published written, rfl, rfl⟩
  · simp only [AfterReply, at_, ReaderMay] at guard
    simp only [processStep, at_] at stepped
    rw [if_pos ((guard matching).trans matching.2), Option.some.injEq] at stepped
    exact stepped ▸ ⟨.tested (.inr (.inr rfl)) published written, rfl, rfl⟩
  · simp only [AfterReply, at_, ReaderMay] at guard
    simp only [processStep, at_, Option.some.injEq] at stepped
    subst next
    refine ⟨.counted rfl ?_, rfl, rfl⟩
    unfold Published at published
    cases phase : state.requester <;> simp [phase] at guard published written
    all_goals simp only [Counted]; exact ⟨published.1, published.2, trivial, trivial⟩

theorem counted_process (request : Request) (reply : Delivery) (state next : Exchange) (copying : state.reader = .copy reply)
    (counted : Counted request reply state) (guard : AfterReply request state .process)
    (stepped : processStep state = some next) :
    Stage request reply next ∧ next.unsolicited = state.unsolicited ∧ next.wild = state.wild := by
  simp only [AfterReply, copying, ReaderMay] at guard
  simp only [processStep, copying, guard, if_true, Bool.not_true, Bool.or_false, Option.some.injEq] at stepped
  subst next
  refine ⟨.stored trivial ?_, rfl, rfl⟩
  have copied : (reply.bytes ++ state.mpRevDataBuf.drop reply.dataLen).take reply.dataLen = reply.bytes := by
    apply List.take_left'
    rw [Delivery.bytes, List.length_take]
    exact Nat.min_eq_left reply.inside
  exact stored_of_counted request reply _ counted copied

-- Behind the reply the reader only works on frames without the command.
theorem stored_process (request : Request) (reply : Delivery) (state next : Exchange) (quiet : Quiet request state.reader)
    (stored : Stored request reply state) (stepped : processStep state = some next) :
    Stage request reply next ∧ next.wild = state.wild ∧
      (next.unsolicited = state.unsolicited ∨
        ∃ frame, ¬ request.Matches frame ∧ next.unsolicited = frame :: state.unsolicited) := by
  obtain ⟨devNoSame, cmdSame⟩ := stored_fields request reply state stored
  cases phase : state.reader with
  | idle => simp [processStep, phase] at stepped
  | testDevNo frame =>
      simp only [Quiet, phase] at quiet
      simp only [processStep, phase, Option.some.injEq] at stepped
      subst next
      refine ⟨.stored ?_ stored, rfl, .inl rfl⟩
      by_cases same : state.waitDevNo = devNo frame.fromDev
      · simp only [if_pos same, Quiet]
        exact ⟨quiet, devNoSame.symm.trans same⟩
      · simpa only [if_neg same, Quiet] using quiet
  | testCmd frame =>
      simp only [Quiet, phase] at quiet
      have different : state.waitCmd ≠ frame.cmd := fun same => quiet.1 ⟨quiet.2, cmdSame.symm.trans same⟩
      simp only [processStep, phase, if_neg different, Option.some.injEq] at stepped
      exact stepped ▸ ⟨.stored quiet.1 stored, rfl, .inl rfl⟩
  | setLen frame => simp [Quiet, phase] at quiet
  | copy frame => simp [Quiet, phase] at quiet
  | signal frame =>
      simp only [processStep, phase, Option.some.injEq] at stepped
      subst next
      refine ⟨.stored trivial ?_, rfl, .inl rfl⟩
      by_cases waits : state.requester = .waiting
      · simp only [if_pos waits]
        simp only [Stored, waits] at stored
        exact ⟨counted_woken request reply state _ stored.1 waits rfl rfl rfl rfl, stored.2⟩
      · simp only [if_neg waits]
        exact stored
  | special frame =>
      simp only [Quiet, phase] at quiet
      simp only [processStep, phase, Option.some.injEq] at stepped
      exact stepped ▸ ⟨.stored trivial stored, rfl, .inr ⟨frame, quiet, rfl⟩⟩

theorem underway_process (request : Request) (reply : Delivery) (delivered state next : Exchange)
    (matching : request.Matches reply) (underway : Underway request reply delivered state)
    (guard : AfterReply request state .process) (stepped : processStep state = some next) :
    Underway request reply delivered next := by
  obtain ⟨stage, ⟨frames, listed, others⟩, wild⟩ := underway
  cases stage with
  | tested testing published written =>
      obtain ⟨kept, same, sameWild⟩ := tested_process request reply state next matching testing published written guard stepped
      exact ⟨kept, ⟨frames, same.trans listed, others⟩, sameWild.trans wild⟩
  | counted copying counted =>
      obtain ⟨kept, same, sameWild⟩ := counted_process request reply state next copying counted guard stepped
      exact ⟨kept, ⟨frames, same.trans listed, others⟩, sameWild.trans wild⟩
  | stored quiet stored =>
      obtain ⟨kept, sameWild, same | ⟨frame, different, added⟩⟩ := stored_process request reply state next quiet stored stepped
      · exact ⟨kept, ⟨frames, same.trans listed, others⟩, sameWild.trans wild⟩
      · refine ⟨kept, ⟨frame :: frames, by rw [added, listed, List.cons_append], ?_⟩, sameWild.trans wild⟩
        intro other member
        rcases List.mem_cons.mp member with rfl | later
        · exact different
        · exact others other later

theorem stage_not_write (request : Request) (reply : Delivery) (state : Exchange) (stage : Stage request reply state) :
    state.requester ≠ .write := by
  intro phase
  cases stage with
  | tested _ _ written => exact written phase
  | counted _ counted => simp [Counted, phase] at counted
  | stored _ stored => simp [Stored, Counted, phase] at stored

theorem underway_step (request : Request) (reply : Delivery) (delivered state next : Exchange) (event : Event)
    (matching : request.Matches reply) (underway : Underway request reply delivered state)
    (guard : AfterReply request state event) (stepped : exchangeStep request state event = some next) :
    Underway request reply delivered next := by
  cases event with
  | write ret => simp [exchangeStep, stage_not_write request reply state underway.stage] at stepped
  | request =>
      obtain ⟨_, unsolicited, wild, _⟩ := request_unsolicited request state next stepped
      exact ⟨stage_request request reply state next matching underway.stage guard stepped,
        by rw [unsolicited]; exact underway.others, by rw [wild]; exact underway.wild⟩
  | timeout =>
      simp only [exchangeStep] at stepped
      split at stepped
      · next waits =>
          rw [Option.some.injEq] at stepped
          exact stepped ▸ ⟨stage_timeout request reply state underway.stage waits, underway.others, underway.wild⟩
      · simp at stepped
  | deliver frame =>
      simp only [exchangeStep] at stepped
      split at stepped
      · next idle =>
          rw [Option.some.injEq] at stepped
          exact stepped ▸ underway_deliver request reply frame delivered state underway guard idle
      · simp at stepped
  | process => exact underway_process request reply delivered state next matching underway guard stepped

def Event.own : Event → Bool
  | .request => true
  | .timeout => true
  | _ => false

def Finishes (request : Request) (reply : Delivery) (state : Exchange) : Prop :=
  ∃ own last, (∀ event ∈ own, Event.own event = true) ∧ run (exchangeStep request) state own = some last ∧
    last.requester = .returned reply.dataLen reply.bytes

theorem finishes_step (request : Request) (reply : Delivery) (state next : Exchange) (event : Event)
    (own : event.own = true) (stepped : exchangeStep request state event = some next)
    (finishes : Finishes request reply next) : Finishes request reply state := by
  obtain ⟨rest, last, all, reached, returned⟩ := finishes
  refine ⟨event :: rest, last, fun other member => ?_, by rw [run, stepped]; exact reached, returned⟩
  rcases List.mem_cons.mp member with rfl | later
  · exact own
  · exact all other later

-- Statements left before the return.
def remaining : Requester → Nat
  | .setData => 7
  | .lock => 6
  | .waiting => 5
  | .test => 4
  | .readLen => 3
  | .copy _ => 2
  | .clear _ _ => 1
  | _ => 0

theorem stored_finishes (request : Request) (reply : Delivery) (count : Nat) (state : Exchange)
    (stored : Stored request reply state) (bound : remaining state.requester = count) : Finishes request reply state := by
  induction count generalizing state with
  | zero =>
      refine ⟨[], state, by simp, rfl, ?_⟩
      cases phase : state.requester <;> simp [phase, remaining, Stored, Counted] at bound stored
      rw [stored.1, stored.2.1]
  | succ count ih =>
      by_cases waits : state.requester = .waiting
      · have woken : Stored request reply { state with requester := .test } := by
          simp only [Stored, waits] at stored
          exact ⟨counted_woken request reply state _ stored.1 waits rfl rfl rfl rfl, stored.2⟩
        apply finishes_step request reply state _ .timeout rfl (by rw [exchangeStep, if_pos waits])
        exact ih _ woken (by rw [waits] at bound; simp only [remaining] at bound ⊢; omega)
      · have moves : ∃ next, requestStep request state = some next ∧ remaining next.requester = count := by
          have positive := reply.positive
          cases phase : state.requester <;>
            simp only [phase, remaining, reduceCtorEq, not_true_eq_false, not_false_eq_true] at bound waits <;>
            simp only [Stored, Counted, phase] at stored <;>
            simp only [requestStep, phase, Option.some.injEq, exists_eq_left']
          case test =>
            have count := stored.1.2.2.1
            rw [if_pos (by omega)]
            exact Nat.succ.inj bound
          all_goals exact Nat.succ.inj bound
        obtain ⟨next, stepped, less⟩ := moves
        apply finishes_step request reply state next .request rfl stepped
        exact ih next (stored_request request reply state next stored stepped) less

-- A reply handled between the publication and the look at reDataLen is returned
-- whole and is not unsolicited, and the call does return once the reader is through.
theorem reply_returned (request : Request) (reply : Delivery) (matching : request.Matches reply)
    (start middle delivered final : Exchange) (before after : List Event) (calling : start.requester = .write)
    (beforeRun : run (exchangeStep request) start before = some middle)
    (beforeOk : Guarded (exchangeStep request) (BeforeReply request) start before)
    (written : middle.requester ≠ .write) (delivery : exchangeStep request middle (.deliver reply) = some delivered)
    (afterRun : run (exchangeStep request) delivered after = some final)
    (afterOk : Guarded (exchangeStep request) (AfterReply request) delivered after) :
    (∀ ret pReData, final.requester = .returned ret pReData → ret = reply.dataLen ∧ pReData = reply.bytes) ∧
    (∃ frames, final.unsolicited = frames ++ delivered.unsolicited ∧ ∀ frame ∈ frames, ¬ request.Matches frame) ∧
    final.wild = delivered.wild ∧
    (Quiet request final.reader → Finishes request reply final) := by
  have published : Published request middle := by
    apply run_invariant (exchangeStep request) (BeforeReply request) (Published request)
      (fun state event next => published_step request state next event) start middle before _ beforeOk beforeRun
    rw [Published, calling]
    trivial
  have underway : Underway request reply delivered delivered := by
    simp only [exchangeStep] at delivery
    split at delivery
    · rw [Option.some.injEq] at delivery
      subst delivered
      exact ⟨.tested (.inl rfl) published written, ⟨[], rfl, by simp⟩, rfl⟩
    · simp at delivery
  have reached := run_invariant (exchangeStep request) (AfterReply request) (Underway request reply delivered)
    (fun state event next inv guard => underway_step request reply delivered state next event matching inv guard)
    delivered final after underway afterOk afterRun
  refine ⟨fun ret pReData returned => ?_, reached.others, reached.wild, fun quiet => ?_⟩
  · cases reached.stage with
    | tested _ publishedFinal _ => simp [Published, returned] at publishedFinal
    | counted _ counted => simp [Counted, returned] at counted
    | stored _ stored =>
        simp only [Stored, returned] at stored
        exact ⟨stored.1, stored.2.1⟩
  · cases reached.stage with
    | tested testing _ _ =>
        rcases testing with at_ | at_ | at_
        · simp [at_, Quiet, matching] at quiet
        · simp [at_, Quiet, matching] at quiet
        · simp [at_, Quiet] at quiet
    | counted copying _ => simp [copying, Quiet] at quiet
    | stored _ stored => exact stored_finishes request reply _ final stored rfl

def volumeRequest : Request := ⟨1, 0x21, 2000000000⟩

def volumeReply : Delivery :=
  ⟨.serial, [0x5a, 0x5a, 0x0a, 0x00, 0x00, 0x21, 0x07, 0x10, 0x20, 0x30], 10, by decide, by decide⟩

def readyToCall : Exchange := ⟨-1, 0xff, 0, 0, true, [], .write, .idle, [], false⟩

def publication : List Event := .write 10 :: List.replicate 6 .request

def answer : List Event := List.replicate 5 .process ++ List.replicate 4 .request

theorem reply_returned_in_time :
    ∃ middle delivered final, run (exchangeStep volumeRequest) readyToCall publication = some middle ∧
      exchangeStep volumeRequest middle (.deliver volumeReply) = some delivered ∧
      run (exchangeStep volumeRequest) delivered answer = some final ∧ final.requester = .returned 10 volumeReply.bytes ∧
      (∀ ret pReData, final.requester = .returned ret pReData → ret = volumeReply.dataLen ∧ pReData = volumeReply.bytes) ∧
      (∃ frames, final.unsolicited = frames ++ delivered.unsolicited ∧
        ∀ frame ∈ frames, ¬ volumeRequest.Matches frame) ∧
      final.wild = delivered.wild ∧ (Quiet volumeRequest final.reader → Finishes volumeRequest volumeReply final) :=
  ⟨_, _, _, rfl, rfl, rfl, rfl, reply_returned volumeRequest volumeReply (by decide) readyToCall _ _ _ publication answer
    rfl rfl (by decide +kernel) (by decide) rfl rfl (by decide +kernel)⟩

-- The reply comes before WaitDevNo and WaitCmd are set: it is passed over as
-- unsolicited and the call times out.
theorem reply_lost_before_publication :
    volumeRequest.Matches volumeReply ∧
    ∃ final, run (exchangeStep volumeRequest) readyToCall
        ([.write 10, .deliver volumeReply, .process, .process] ++ List.replicate 6 .request ++
          .timeout :: List.replicate 3 .request) = some final ∧
      final.requester = .returned (-1) [] ∧ volumeReply ∈ final.unsolicited := by
  refine ⟨by decide, _, rfl, rfl, ?_⟩
  decide

end Droidlogic.Fbc
