import Mathlib.Algebra.Ring.Int.Defs
import Mathlib.Algebra.Ring.Nat
import Droidlogic.Lib.Bytes

set_option autoImplicit false

namespace Droidlogic.Fbc

open Droidlogic.Lib

inductive CommDev
  | cec
  | serial
deriving DecidableEq

def s_crc32 : List UInt32 :=
  [0, 0x1db71064, 0x3b6e20c8, 0x26d930ac, 0x76dc4190, 0x6b6b51f4, 0x4db26158, 0x5005713c, 0xedb88320, 0xf00f9344,
    0xd6d6a3e8, 0xcb61b38c, 0x9b64c2b0, 0x86d3d2d4, 0xa00ae278, 0xbdbdf21c]

def crcNibble (crcu32 : UInt32) (nibble : UInt8) : UInt32 :=
  (crcu32 >>> 4) ^^^ s_crc32.getD ((crcu32 &&& 0xF) ^^^ nibble.toUInt32).toNat 0

def crcByte (crcu32 : UInt32) (b : UInt8) : UInt32 := crcNibble (crcNibble crcu32 (b &&& 0xF)) (b >>> 4)

def calcrc32 (crc : UInt32) (bytes : Bytes) : UInt32 := ~~~ bytes.foldl crcByte (~~~ crc)

-- write_buf is not initialised. none is a write past its 512 bytes.
def serialFrame (write_buf cmd_buf : Bytes) : Option Bytes :=
  let count := cmd_buf.length
  match overwrite write_buf 0 [0x5a, 0x5a, .ofNat (count + 9 &&& 0xff), .ofNat ((count + 9) >>> 8 &&& 0xff), 0x00] with
  | none => none
  | some led =>
      match overwrite led 5 cmd_buf with
      | none => none
      | some filled =>
          match overwrite filled (count + 5) (le32 (calcrc32 0 (filled.take (count + 5)))) with
          | none => none
          | some closed => some (closed.take (count + 9))

def cecFrame (cmd_buf : Bytes) : Option Bytes :=
  (overwrite (List.replicate 512 0) 0 (0x40 :: cmd_buf)).map fun cmd => cmd.take (cmd_buf.length + 1)

-- The return value and what is written to the device, whose own result is not looked at.
def fbcSetBatchValue (mUpgradeFlag : Int) (toDev : CommDev) (write_buf cmd_buf : Bytes) :
    Option (Int × Option (CommDev × Bytes)) :=
  if mUpgradeFlag = 1 then some (0, none)
  else if 512 ≤ cmd_buf.length then some (-1, none)
  else
    match toDev with
    | .cec => (cecFrame cmd_buf).map fun frame => (0, some (.cec, frame))
    | .serial => (serialFrame write_buf cmd_buf).map fun frame => (0, some (.serial, frame))

-- waiting: every read so far has been answered and the loop asks for more.
-- fault: an access outside a buffer.
inductive Outcome (Result : Type)
  | waiting
  | fault
  | done (result : Result)
deriving DecidableEq

def Outcome.bind {First Second : Type} (first : Outcome First) (next : First → Outcome Second) : Outcome Second :=
  match first with
  | .waiting => .waiting
  | .fault => .fault
  | .done result => next result

-- tempBuf, the bytes still to come on the line and the reads still to come. A
-- read is the number of bytes the port has within its timeout; readFile hands
-- out at most the number it is asked for, a timeout is a read of 0.
structure Received where
  tempBuf : Bytes
  line : Bytes
  reads : List Nat
deriving DecidableEq

def leaderLoop : Nat → List Nat → Bytes → Bytes → Outcome Received
  | _, [], _, _ => .waiting
  | index, read :: reads, line, tempBuf =>
      match overwrite tempBuf index (line.take (min read 1)) with
      | none => .fault
      | some tempBuf =>
          if tempBuf[index]? = some 0x5a then
            if index = 0 then leaderLoop 1 reads (line.drop (min read 1)) tempBuf
            else .done ⟨tempBuf, line.drop (min read 1), reads⟩
          else leaderLoop 0 reads (line.drop (min read 1)) tempBuf

-- missing is needRead - haveRead. A readFile of 0 bytes returns none of them
-- whatever comes on the line, so it takes no read.
def readLoop : Nat → Nat → List Nat → Bytes → Bytes → Outcome Received
  | missing, bufIndex, reads, line, tempBuf =>
      if missing = 0 then .done ⟨tempBuf, line, reads⟩
      else
        match reads with
        | [] => .waiting
        | read :: reads =>
            let got := line.take (min read missing)
            match overwrite tempBuf bufIndex got with
            | none => .fault
            | some tempBuf =>
                readLoop (missing - got.length) (bufIndex + got.length) reads (line.drop (min read missing)) tempBuf
termination_by structural _ _ reads => reads

def cmdLen (tempBuf : Bytes) : Nat := ((tempBuf.getD 3 0).toNat <<< 8) + (tempBuf.getD 2 0).toNat

def readHeader (line : Bytes) (reads : List Nat) : Outcome Received :=
  (leaderLoop 0 reads line (List.replicate 512 0)).bind fun led => readLoop 2 2 led.reads led.line led.tempBuf

-- A negative needRead reaches com_read_data as an unsigned length.
def readBody (header : Received) : Outcome Received :=
  if cmdLen header.tempBuf < 4 then .fault
  else readLoop (cmdLen header.tempBuf - 4) 4 header.reads header.line header.tempBuf

structure UartResult where
  ret : Int
  retLen : Int
  retData : Bytes
  line : Bytes
  reads : List Nat
deriving DecidableEq

def frameCrc (tempBuf : Bytes) (length : Nat) : UInt32 :=
  if 4 < length then calcrc32 0 (tempBuf.take (length - 4)) else 0

def verifyFrame (retData : Bytes) (retLen : Int) (body : Received) : Outcome UartResult :=
  let length := cmdLen body.tempBuf
  if body.tempBuf.length < length then .fault
  else if le32 (frameCrc body.tempBuf length) = (body.tempBuf.drop (length - 4)).take 4 then
    match overwrite retData 0 (body.tempBuf.take (length % 512)) with
    | none => .fault
    | some retData => .done ⟨length, length, retData, body.line, body.reads⟩
  else .done ⟨-1, retLen, retData, body.line, body.reads⟩

def uartReadData (retData : Bytes) (retLen : Int) (line : Bytes) (reads : List Nat) : Outcome UartResult :=
  ((readHeader line reads).bind readBody).bind (verifyFrame retData retLen)

end Droidlogic.Fbc
