import Droidlogic.Hdcp.Image
import Droidlogic.Lib.File

set_option autoImplicit false

namespace Droidlogic.Hdcp

open Droidlogic.Lib

def keyMaxSize : Nat := 2048

def hdcpRx22StorageKeySize : Nat := 10240

def hdcpRx22KeyCrcLen : Nat := 4

def hdcpRxRp222080ByteSize : Nat := 2080

def insertOffset : Nat := 0x2800

def firmwareItem : Bytes := ascii ['f', 'i', 'r', 'm', 'w', 'a', 'r', 'e']

-- A command: whether the binary is there, its exit status, and the output file behind
-- it, which an earlier command may have left.
structure ToolRun where
  present : Bool
  status : Int
  output : Option Bytes

-- What one pass through the generation meets outside. A write is none when the file does
-- not open, and otherwise the number of bytes that reach it.
structure Pass where
  aicPresent : Bool
  itemOpens : Nat → Bool
  keys : ToolRun
  swap : ToolRun
  aic : ToolRun
  firmwareWrite : Option Nat
  crcWrite : Option Nat

structure Board where
  source : Bytes
  signedChar : Bool
  large : insertOffset + hdcpRxRp222080ByteSize ≤ source.length

structure Files where
  stored : Option Bytes
  dest : Option Bytes
  crc : Option Bytes

def runTool (tool : ToolRun) : Bool := tool.present && tool.status == 0 && tool.output.isSome

def genKeyImg (pass : Pass) : Bool := runTool pass.keys

def esmSwap (pass : Pass) : Bool := runTool pass.swap

def aicTool (pass : Pass) : Bool := runTool pass.aic

def charBits (signedChar : Bool) (byte : UInt8) : UInt32 :=
  if signedChar = true ∧ 0x80 ≤ byte then 0xffffff00 ||| byte.toUInt32 else byte.toUInt32

def crcValue (signedChar : Bool) (data : Bytes) : UInt32 :=
  charBits signedChar (data.getD 3 0) <<< 24 ||| charBits signedChar (data.getD 2 0) <<< 16 |||
    charBits signedChar (data.getD 1 0) <<< 8 ||| (charBits signedChar (data.getD 0 0) &&& 0xff)

def zeros (size : Nat) : Bytes := List.replicate size 0

-- A file that is missing or short leaves what the buffer held.
def readSys (file : Option Bytes) (buf : Bytes) (count : Nat) : Bytes :=
  match file with
  | none => buf
  | some content => content.take count ++ buf.drop (content.take count).length

def saveFile (written : Option Nat) (buf : Bytes) (file : Option Bytes) : Option Bytes :=
  match written with
  | none => file
  | some bytes => some (buf.take bytes)

inductive Unpacked
  | failed
  | pcTool
  | armTool
deriving DecidableEq

-- The items are read behind the header without a look at the key's length, and an item
-- that is written comes from a buffer of KEY_MAX_SIZE bytes.
def unpackItems (pass : Pass) (inBuf : Bytes) : Nat → Nat → Option Unpacked
  | 0, _ => some .armTool
  | left + 1, i =>
      if inBuf.length < imgHeadSz + itemHeadSz * (i + 1) then none
      else
        let item := itemHead (inBuf.drop (imgHeadSz + itemHeadSz * i))
        let itemSz := (item.dataSz.toNat + 15) / 16 * 16
        if 2 ^ 31 ≤ item.dataSz.toNat + 15 then none
        else if named item.name firmwareItem = true ∨ named item.name hdcpRx = true then
          if pass.itemOpens i = false then some .failed
          else if keyMaxSize < itemSz then none
          else unpackItems pass inBuf left (i + 1)
        else unpackItems pass inBuf left (i + 1)

-- strncmp runs past the end of a buffer that has agreed with the magic so far.
def hdcpKeyUnpack (pass : Pass) (inBuf : Bytes) (inBufLen : Nat) : Option Unpacked :=
  let magic := (inBuf.drop 8).take 8
  let imgItemNum := (imgHead inBuf).imgItemNum.toNat
  if magic ≠ amlResImgV1Magic then
    if magic.length < 8 ∧ magic.isPrefixOf amlResImgV1Magic = true then none else some .pcTool
  else if (imgHead inBuf).crc ≠ addSum (inBuf.drop 4) (inBufLen - 4) 0 then some .pcTool
  else if keyMaxSize < inBufLen then some .failed
  else if pass.aicPresent = false then some .failed
  else unpackItems pass inBuf (if 2 ^ 31 ≤ imgItemNum then 0 else imgItemNum) 0

inductive Loaded
  | undefined
  | noBuffer
  | bytes (content : Bytes)

-- What lseek answers, as an int.
def fileSize (content : Bytes) : Int := (UInt32.ofNat content.length).toInt32.toInt

-- The buffer for a file has one byte more.
def loadFile (content : Bytes) : Loaded :=
  let size := fileSize content
  if size = 2147483647 ∨ size = -1 then .undefined
  else if size < 0 then .noBuffer
  else .bytes (content.take size.toNat)

def insertBlock (srcData insertData : Bytes) : Option Bytes :=
  (overwrite (srcData ++ [0]) insertOffset insertData).map fun data => data.take srcData.length

def combineFirmwarewithArmTool (board : Board) (pass : Pass) (insert : Bytes) (files : Files) : Option Files :=
  match loadFile board.source with
  | .undefined => none
  | .noBuffer => some files
  | .bytes srcData =>
      match loadFile insert with
      | .undefined => none
      | .noBuffer => some files
      | .bytes insertData =>
          (insertBlock srcData insertData).map fun image =>
            { files with dest := saveFile pass.firmwareWrite image files.dest }

-- The CRC is saved behind every write, whatever reached the file.
def combineFirmwarewithPCTool (board : Board) (pass : Pass) (files : Files) : Option Files :=
  match files.stored with
  | none => some files
  | some stored =>
      let pKeyBuffer := stored.take hdcpRx22StorageKeySize
      let keyCrcData := pKeyBuffer.take hdcpRx22KeyCrcLen
      let lastCrcData := readSys files.crc (zeros hdcpRx22KeyCrcLen) hdcpRx22KeyCrcLen
      if pKeyBuffer.length < hdcpRx22KeyCrcLen then some files
      else if crcValue board.signedChar keyCrcData = crcValue board.signedChar lastCrcData then some files
      else
        match loadFile board.source with
        | .undefined => none
        | .noBuffer => some files
        | .bytes srcData =>
            let insertData := readSys (some stored) (zeros hdcpRxRp222080ByteSize) hdcpRxRp222080ByteSize
            (insertBlock srcData insertData).map fun image =>
              match pass.firmwareWrite with
              | none => files
              | some bytes =>
                  { files with dest := some (image.take bytes), crc := saveFile pass.crcWrite keyCrcData files.crc }

inductive Generated
  | undefined
  | refused
  | done (made : Bool) (files : Files)

-- The part that setHDCP22Key and setHdcpRX22key share. What the combination with the arm
-- tool answers is not looked at.
def generateFirmware (board : Board) (pass : Pass) (inBuf : Bytes) (keyLen : Nat) (keyCrcData : Bytes) (files : Files) :
    Generated :=
  match hdcpKeyUnpack pass inBuf keyLen with
  | none => .undefined
  | some .failed => .refused
  | some .armTool =>
      if (genKeyImg pass && esmSwap pass && aicTool pass) = true then
        match combineFirmwarewithArmTool board pass (pass.aic.output.getD []) files with
        | none => .undefined
        | some after => .done true { after with crc := saveFile pass.crcWrite keyCrcData after.crc }
      else .done false files
  | some .pcTool =>
      match combineFirmwarewithPCTool board pass files with
      | none => .undefined
      | some after => .done true after

def keyBuf (key : Bytes) : Bytes := key ++ zeros (hdcpRx22StorageKeySize - key.length)

-- left counts the passes that may still follow, ret is what an early exit returns.
def regenerate (board : Board) (pass : Nat → Pass) : Nat → Nat → Bool → Bytes → Files → Option (Bool × Files)
  | left, countNum, ret, lastCrcData, files =>
      match files.stored with
      | none => some (ret, files)
      | some stored =>
          let key := stored.take hdcpRx22StorageKeySize
          let keyCrcData := key.take hdcpRx22KeyCrcLen
          let last := readSys files.crc lastCrcData hdcpRx22KeyCrcLen
          if key.length < hdcpRx22KeyCrcLen then some (ret, files)
          else
            let generated :=
              if files.dest = none ∨ crcValue board.signedChar keyCrcData ≠ crcValue board.signedChar last then
                generateFirmware board (pass countNum) (keyBuf key) key.length keyCrcData files
              else .done true files
            match generated with
            | .undefined => none
            | .refused => some (ret, files)
            | .done _ after =>
                match after.dest with
                | none => some (ret, after)
                | some firmware =>
                    if firmware.length < 100 then
                      match left with
                      | 0 => some (true, { after with dest := none })
                      | left + 1 => regenerate board pass left (countNum + 1) true last { after with dest := none }
                    else some (true, after)

def setHDCP22Key (board : Board) (pass : Nat → Pass) (files : Files) : Option (Bool × Files) :=
  regenerate board pass 2 0 false (zeros hdcpRx22KeyCrcLen) files

-- The secure storage takes the key (accepted) and holds it afterwards (kept); a key
-- that it does not take leaves the one it has.
structure KeyStore where
  accepted : Bool
  kept : Bool

def setHdcpRX22key (board : Board) (store : KeyStore) (pass : Pass) (value : Bytes) (files : Files) :
    Option (Int × Files) :=
  if store.accepted = false then some (-1, files)
  else if store.kept = false then some (-1, { files with stored := none })
  else if value.length < hdcpRx22KeyCrcLen then none
  else
    let files := { files with stored := some value }
    let keyCrcData := value.take hdcpRx22KeyCrcLen
    let lastCrcData := readSys files.crc (zeros hdcpRx22KeyCrcLen) hdcpRx22KeyCrcLen
    if files.dest = none ∨ crcValue board.signedChar keyCrcData ≠ crcValue board.signedChar lastCrcData then
      match generateFirmware board pass value value.length keyCrcData files with
      | .undefined => none
      | .refused => some (-1, files)
      | .done made after => some (if made = true then 0 else -1, after)
    else some (-1, files)

end Droidlogic.Hdcp
