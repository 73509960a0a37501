import Droidlogic.Fbc.Frame
import Droidlogic.Fbc.Reply

set_option autoImplicit false

namespace Droidlogic.Fbc

open Droidlogic.Lib

-- What comes of a request: the write fails, nothing comes in while it waits, or a frame.
inductive Answer
  | writeFailed (ret : Int) (failed : ret < 0)
  | timeout
  | frame (frame : Delivery) (short : frame.dataLen ≤ 511)

-- received is the frame that was taken for the reply.
structure Waited where
  ret : Int
  reDataLen : Nat
  pReData : Bytes
  received : Option Delivery

-- processData drops a frame that the request does not match, and it waits on.
def sendDataAndWaitReply (request : Request) (answer : Answer) (reDataLen : Nat) (pReData : Bytes) : Option Waited :=
  match answer with
  | .writeFailed ret _ => some ⟨ret, reDataLen, pReData, none⟩
  | .timeout => some ⟨-1, reDataLen, pReData, none⟩
  | .frame frame _ =>
      if request.Matches frame then
        (overwrite pReData 0 frame.bytes).map fun pReData => ⟨frame.dataLen, frame.dataLen, pReData, some frame⟩
      else some ⟨-1, reDataLen, pReData, none⟩

structure Got where
  ret : Int
  cmd_buf : Bytes
  received : Option Delivery

-- sent is what is written to the device. The result is none when the copy back leaves a buffer.
structure Asked where
  sent : Option (CommDev × Bytes)
  result : Option Got

def requestBuffer (write_buf cmd_buf : Bytes) : Option Bytes :=
  let count := cmd_buf.length
  match overwrite write_buf 0
      [0x5a, 0x5a, .ofNat (count + 9 &&& 0xff), .ofNat ((count + 9) >>> 8 &&& 0xff), 0x00] with
  | none => none
  | some led =>
      match overwrite led 5 cmd_buf with
      | none => none
      | some filled => overwrite filled (count + 5) (le32 (calcrc32 0 (filled.take (count + 5))))

def copyBack (cmd_buf : Bytes) (waited : Waited) : Option Got :=
  if 9 < waited.reDataLen then
    (overwrite cmd_buf 0 ((waited.pReData.drop 5).take (waited.reDataLen - 9))).map fun cmd_buf =>
      ⟨waited.reDataLen, cmd_buf, waited.received⟩
  else some ⟨waited.reDataLen, cmd_buf, waited.received⟩

-- write_buf[2] is handed over for the length.
def getSerial (cmd_buf : Bytes) (count : Nat) (answer : Answer) : Option Asked :=
  (requestBuffer (List.replicate 512 0) (cmd_buf.take count)).map fun write_buf =>
    { sent := some (.serial, write_buf.take (write_buf.getD 2 0).toNat)
      result :=
        (sendDataAndWaitReply ⟨devNo .serial, (write_buf.getD 5 0).toNat, 2 * 1000 * 1000 * 1000⟩ answer 0
          (List.replicate 512 0)).bind (copyBack cmd_buf) }

-- The command is copied back in place of the reply.
def getCec (cmd_buf : Bytes) (count : Nat) (answer : Answer) : Option Asked :=
  cmd_buf.head?.map fun id =>
    let cmd : Bytes := 0x40 :: id :: List.replicate 510 0
    { sent := some (.cec, cmd.take (count + 1))
      result :=
        (sendDataAndWaitReply ⟨devNo .cec, id.toNat, 0⟩ answer 0 (List.replicate 512 0)).bind fun waited =>
          if 2 < waited.reDataLen then
            (overwrite cmd_buf 0 ((cmd.drop 1).take waited.reDataLen)).map fun cmd_buf => ⟨0, cmd_buf, waited.received⟩
          else some ⟨0, cmd_buf, waited.received⟩ }

-- cmd_buf is what the caller has from the pointer on, the first count bytes are sent.
def fbcGetBatchValue (mUpgradeFlag : Int) (fromDev : CommDev) (cmd_buf : Bytes) (count : Nat) (answer : Answer) :
    Option Asked :=
  if mUpgradeFlag = 1 then some ⟨none, some ⟨0, cmd_buf, none⟩⟩
  else if 512 ≤ count then some ⟨none, some ⟨-1, cmd_buf, none⟩⟩
  else if cmd_buf.length < count then none
  else
    match fromDev with
    | .cec => getCec cmd_buf count answer
    | .serial => getSerial cmd_buf count answer

theorem send_silent (request : Request) (answer : Answer) (reDataLen : Nat) (pReData : Bytes)
    (silent : ∀ frame short, answer = .frame frame short → ¬request.Matches frame) :
    ∃ ret, sendDataAndWaitReply request answer reDataLen pReData = some ⟨ret, reDataLen, pReData, none⟩ := by
  cases answer with
  | writeFailed ret failed => exact ⟨ret, rfl⟩
  | timeout => exact ⟨-1, rfl⟩
  | frame frame short => exact ⟨-1, if_neg (silent frame short rfl)⟩

theorem send_replied (request : Request) (frame : Delivery) (short : frame.dataLen ≤ 511) (reDataLen : Nat) (pReData : Bytes)
    (buffer : pReData.length = 512) (matching : request.Matches frame) :
    sendDataAndWaitReply request (.frame frame short) reDataLen pReData =
      some ⟨frame.dataLen, frame.dataLen, frame.bytes ++ pReData.drop frame.dataLen, some frame⟩ := by
  have length : frame.bytes.length = frame.dataLen := List.length_take_of_le frame.inside
  rw [sendDataAndWaitReply, if_pos matching, overwrite, length, Nat.zero_add, if_pos (by omega)]
  rfl

def waitingFor (request : Request) (start : Exchange) : Exchange :=
  { start with
    waitDevNo := request.waitForDevno, waitCmd := request.waitForCmd, waitTimeOut := request.timeout, reDataLen := 0
    replyData := true, requester := .waiting }

theorem run_published (request : Request) (start : Exchange) (calling : start.requester = .write) :
    run (exchangeStep request) start (.write 0 :: List.replicate 6 .request) = some (waitingFor request start) := by
  obtain ⟨_, _, _, _, _, _, _, _, _, _⟩ := start
  cases calling
  rfl

theorem run_timed_out (request : Request) (state : Exchange) (waits : state.requester = .waiting)
    (none : state.reDataLen = 0) :
    run (exchangeStep request) state (.timeout :: List.replicate 3 .request) =
      some { state with waitDevNo := -1, waitCmd := 0xff, requester := .returned (-1) [] } := by
  obtain ⟨_, _, _, _, _, _, _, _, _, _⟩ := state
  cases waits
  cases none
  rfl

theorem run_replied (request : Request) (state : Exchange) (frame : Delivery) (waits : state.requester = .waiting)
    (idle : state.reader = .idle) (pointer : state.replyData = true) (devNo : state.waitDevNo = devNo frame.fromDev)
    (cmd : state.waitCmd = frame.cmd) :
    ∃ final, run (exchangeStep request) state
        (.deliver frame :: (List.replicate 5 .process ++ List.replicate 4 .request)) = some final ∧
      final.requester = .returned frame.dataLen frame.bytes := by
  obtain ⟨_, _, _, _, _, _, _, _, _, _⟩ := state
  cases waits
  cases idle
  cases pointer
  have length : frame.bytes.length = frame.dataLen := List.length_take_of_le frame.inside
  simp only [run, exchangeStep, processStep, requestStep, List.replicate, List.cons_append, List.nil_append,
    Option.bind_some, if_pos devNo, if_pos cmd, if_pos frame.positive, reduceIte]
  refine ⟨_, rfl, ?_⟩
  rw [← length, List.take_left]

theorem run_passed_over (request : Request) (state : Exchange) (frame : Delivery) (idle : state.reader = .idle)
    (devNo : state.waitDevNo = request.waitForDevno) (cmd : state.waitCmd = request.waitForCmd)
    (different : ¬request.Matches frame) :
    ∃ events, run (exchangeStep request) state (.deliver frame :: events) =
      some { state with unsolicited := frame :: state.unsolicited } := by
  obtain ⟨_, _, _, _, _, _, _, _, _, _⟩ := state
  cases idle
  cases devNo
  cases cmd
  by_cases device : request.waitForDevno = Fbc.devNo frame.fromDev
  · have command : request.waitForCmd ≠ frame.cmd := fun same => different ⟨device, same⟩
    refine ⟨List.replicate 3 .process, ?_⟩
    simp only [run, exchangeStep, processStep, List.replicate, Option.bind_some, if_pos device, if_neg command, reduceIte]
  · refine ⟨List.replicate 2 .process, ?_⟩
    simp only [run, exchangeStep, processStep, List.replicate, Option.bind_some, if_neg device, reduceIte]

-- Every answer is what one run of the exchange comes to.
theorem answer_exchanged (request : Request) (answer : Answer) (start : Exchange) (pReData : Bytes)
    (calling : start.requester = .write) (idle : start.reader = .idle) (buffer : pReData.length = 512) :
    ∃ waited events final, sendDataAndWaitReply request answer 0 pReData = some waited ∧
      run (exchangeStep request) start events = some final ∧
      final.requester = .returned waited.ret (waited.pReData.take waited.reDataLen) := by
  have published := run_published request start calling
  cases answer with
  | writeFailed ret failed =>
      refine ⟨_, [.write ret], { start with requester := .returned ret [] }, rfl, ?_, rfl⟩
      simp only [run, exchangeStep, if_pos calling, if_pos failed, Option.bind_some]
  | timeout =>
      refine ⟨_, _, _, rfl, run_append _ _ _ _ _ _ published (run_timed_out request (waitingFor request start) rfl rfl), rfl⟩
  | frame frame short =>
      by_cases matching : request.Matches frame
      · obtain ⟨final, replied, returned⟩ := run_replied request (waitingFor request start) frame rfl idle rfl matching.1
          matching.2
        have length : frame.bytes.length = frame.dataLen := List.length_take_of_le frame.inside
        refine ⟨_, _, final, send_replied request frame short 0 pReData buffer matching,
          run_append _ _ _ _ _ _ published replied, ?_⟩
        rw [returned, ← length, List.take_left]
      · obtain ⟨events, passed⟩ := run_passed_over request (waitingFor request start) frame idle rfl rfl matching
        have late := run_append _ _ _ _ _ _ passed
          (run_timed_out request { waitingFor request start with unsolicited := frame :: start.unsolicited } rfl rfl)
        exact ⟨_, _, _, if_neg matching, run_append _ _ _ _ _ _ published late, rfl⟩

theorem request_buffer_frame (write_buf payload : Bytes) :
    serialFrame write_buf payload =
      (requestBuffer write_buf payload).map fun write_buf => write_buf.take (payload.length + 9) := by
  simp only [serialFrame, requestBuffer]
  cases overwrite write_buf 0 [0x5a, 0x5a, .ofNat (payload.length + 9 &&& 0xff),
      .ofNat ((payload.length + 9) >>> 8 &&& 0xff), 0x00] with
  | none => rfl
  | some led =>
      simp only
      cases overwrite led 5 payload with
      | none => rfl
      | some filled =>
          simp only
          cases overwrite filled (payload.length + 5) (le32 (calcrc32 0 (filled.take (payload.length + 5)))) <;> rfl

theorem request_buffer_some (write_buf payload : Bytes) (buffer : write_buf.length = 512) (short : payload.length ≤ 503) :
    ∃ rest, requestBuffer write_buf payload = some (framed payload ++ rest) := by
  have whole := serial_frame_some write_buf payload buffer short
  rw [request_buffer_frame] at whole
  obtain ⟨filled, built, front⟩ := Option.map_eq_some_iff.mp whole
  refine ⟨filled.drop (payload.length + 9), ?_⟩
  rw [built, ← front, List.take_append_drop]

theorem request_buffer_none (write_buf payload : Bytes) (buffer : write_buf.length = 512) (long : 504 ≤ payload.length) :
    requestBuffer write_buf payload = none := by
  have whole := serial_frame_none write_buf payload buffer long
  rw [request_buffer_frame, Option.map_eq_none_iff] at whole
  exact whole

-- The low byte of the length is all that counts.
theorem request_sent (payload rest : Bytes) :
    (framed payload ++ rest).take ((framed payload ++ rest).getD 2 0).toNat =
      (framed payload).take ((payload.length + 9) % 256) := by
  have low : ((framed payload ++ rest).getD 2 0).toNat = (payload.length + 9) % 256 := by
    have mask : payload.length + 9 &&& 0xff = (payload.length + 9) % 256 := Nat.and_two_pow_sub_one_eq_mod _ 8
    simp only [framed, List.cons_append, List.getD_cons_succ, List.getD_cons_zero, UInt8.toNat_ofNat', mask]
    omega
  rw [low, List.take_append_of_le_length]
  rw [framed_length]
  exact Nat.mod_le _ _

theorem get_sent (mUpgradeFlag : Int) (cmd_buf : Bytes) (count : Nat) (answer : Answer) (sending : mUpgradeFlag ≠ 1)
    (payload : count ≤ cmd_buf.length) (fits : count ≤ 503) :
    (fbcGetBatchValue mUpgradeFlag .serial cmd_buf count answer).map Asked.sent =
      some (some (.serial, (framed (cmd_buf.take count)).take ((count + 9) % 256))) := by
  have length : (cmd_buf.take count).length = count := List.length_take_of_le payload
  obtain ⟨rest, built⟩ := request_buffer_some (List.replicate 512 0) (cmd_buf.take count) List.length_replicate
    (length.symm ▸ fits)
  rw [fbcGetBatchValue, if_neg sending, if_neg (by omega), if_neg (Nat.not_lt.mpr payload)]
  simp only [getSerial, built, Option.map_some, request_sent, length]

-- Both put one and the same whole frame on the line.
def SameFrame (mUpgradeFlag : Int) (write_buf cmd_buf : Bytes) (count : Nat) (answer : Answer) : Prop :=
  ∃ frame, frame.length = count + 9 ∧
    (fbcSetBatchValue mUpgradeFlag .serial write_buf (cmd_buf.take count)).map Prod.snd = some (some (.serial, frame)) ∧
    (fbcGetBatchValue mUpgradeFlag .serial cmd_buf count answer).map Asked.sent = some (some (.serial, frame))

theorem encoders_agree_iff (mUpgradeFlag : Int) (write_buf cmd_buf : Bytes) (count : Nat) (answer : Answer)
    (sending : mUpgradeFlag ≠ 1) (accepted : count < 512) (buffer : write_buf.length = 512)
    (payload : count ≤ cmd_buf.length) : SameFrame mUpgradeFlag write_buf cmd_buf count answer ↔ count ≤ 246 := by
  have length : (cmd_buf.take count).length = count := List.length_take_of_le payload
  by_cases fits : count ≤ 503
  · have whole := framed_length (cmd_buf.take count)
    have line := get_sent mUpgradeFlag cmd_buf count answer sending payload fits
    have sets : (fbcSetBatchValue mUpgradeFlag .serial write_buf (cmd_buf.take count)).map Prod.snd =
        some (some (.serial, framed (cmd_buf.take count))) := by
      rw [fbcSetBatchValue, if_neg sending, if_neg (by omega), serial_frame_some write_buf _ buffer (length.symm ▸ fits)]
      rfl
    rw [length] at whole
    constructor
    · rintro ⟨frame, size, set, get⟩
      rw [sets] at set
      rw [line] at get
      cases set
      have same : (framed (cmd_buf.take count)).take ((count + 9) % 256) = framed (cmd_buf.take count) :=
        (Prod.mk.inj (Option.some.inj (Option.some.inj get))).2
      have cut := congrArg List.length same
      rw [List.length_take, whole] at cut
      omega
    · intro low
      refine ⟨framed (cmd_buf.take count), whole, sets, ?_⟩
      rw [line, Nat.mod_eq_of_lt (by omega), List.take_of_length_le (Nat.le_of_eq whole)]
  · have lost := request_buffer_none (List.replicate 512 0) (cmd_buf.take count) List.length_replicate (by omega)
    refine iff_of_false ?_ (by omega)
    rintro ⟨_, _, _, get⟩
    rw [fbcGetBatchValue, if_neg sending, if_neg (Nat.not_le.mpr accepted), if_neg (Nat.not_lt.mpr payload)] at get
    simp only [getSerial, lost] at get
    cases get

theorem encoders_agree_volume :
    SameFrame 0 (List.replicate 512 0xee) [0x21, 0x07] 2 .timeout ↔ 2 ≤ 246 :=
  encoders_agree_iff 0 (List.replicate 512 0xee) [0x21, 0x07] 2 .timeout (by decide) (by decide) List.length_replicate
    (Nat.le_refl 2)

-- Of a frame of 256 bytes none is written, and 504 bytes of payload leave no room for the checksum.
theorem encoders_disagree :
    ¬∀ count < 512, SameFrame 0 (List.replicate 512 0) (List.replicate 511 0x21) count .timeout := by
  intro all
  obtain ⟨frame, size, _, get⟩ := all 247 (by decide)
  rw [get_sent 0 (List.replicate 511 0x21) 247 .timeout (by decide) (by rw [List.length_replicate]; decide) (by decide)]
    at get
  cases get
  cases size

end Droidlogic.Fbc
