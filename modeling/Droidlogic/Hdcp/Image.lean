import Droidlogic.Hdcp.Checksum
import Mathlib.Algebra.Ring.Int.Defs

set_option autoImplicit false

namespace Droidlogic.Hdcp

open Droidlogic.Lib

def imgHeadSz : Nat := 24

def itemHeadSz : Nat := 48

def itemReadBufSz : Nat := 65536

-- "AML_HDK!"
def amlResImgV1Magic : Bytes := ascii ['A', 'M', 'L', '_', 'H', 'D', 'K', '!']

structure AmlResImgHead where
  crc : UInt32
  version : UInt32
  magic : Bytes
  imgSz : UInt32
  imgItemNum : UInt32

def imgHead (bytes : Bytes) : AmlResImgHead where
  crc := word32 bytes
  version := word32 (bytes.drop 4)
  magic := (bytes.drop 8).take 8
  imgSz := word32 (bytes.drop 16)
  imgItemNum := word32 (bytes.drop 20)

structure AmlResItemHead where
  totalSz : UInt32
  dataSz : UInt32
  dataOffset : UInt32
  type : UInt8
  comp : UInt8
  name : Bytes

def itemHead (bytes : Bytes) : AmlResItemHead where
  totalSz := word32 bytes
  dataSz := word32 (bytes.drop 4)
  dataOffset := word32 (bytes.drop 8)
  type := bytes.getD 12 0
  comp := bytes.getD 13 0
  name := (bytes.drop 16).take 32

-- strcmp of a name field with a shorter constant ends at the constant's NUL.
def named (name constant : Bytes) : Bool := name.take (constant.length + 1) == constant ++ [0]

def hdcpRxPrivate : Bytes :=
  ascii ['h', 'd', 'c', 'p', '2', '2', '_', 'r', 'x', '_', 'p', 'r', 'i', 'v', 'a', 't', 'e']

def hdcpRx : Bytes := ascii ['h', 'd', 'c', 'p', '2', '_', 'r', 'x']

def hdcpRxFw : Bytes := ascii ['e', 'x', 't', 'r', 'a', 'c', 't', 'e', 'd', 'K', 'e', 'y']

def hdcp22RxFw : Bytes := ascii ['h', 'd', 'c', 'p', '2', '2', '_', 'r', 'x', '_', 'f', 'w']

def oneReadSz : Nat := 12288

-- Each read fills the front of the buffer, and the sum runs over the size asked for.
def crcLoop (content : Bytes) (checkSz : Nat) : Nat → Nat → Bytes → UInt32 → UInt32
  | 0, _, _, crc => crc
  | fuel + 1, totalLenToCheck, buf, crc =>
      if totalLenToCheck < checkSz then
        let leftLen := checkSz - totalLenToCheck
        let thisReadSz := if oneReadSz < leftLen then oneReadSz else leftLen
        let read := (content.drop totalLenToCheck).take thisReadSz
        let filled := read ++ buf.drop read.length
        crcLoop content checkSz fuel (totalLenToCheck + thisReadSz) filled (addSum filled thisReadSz crc)
      else crc

-- Zero stands for a sum and for each of the errors.
def calcImgCrc (allocated : Bool) (heap file : Bytes) (offset : Nat) (checkSz : UInt32) : UInt32 :=
  if allocated = false then 0
  else
    let maxCheckLen : UInt32 := .ofNat file.length - .ofNat offset
    if checkSz = 0 then crcLoop (file.drop offset) maxCheckLen.toNat maxCheckLen.toNat 0 heap 0
    else if maxCheckLen < checkSz then 0
    else crcLoop (file.drop offset) checkSz.toNat checkSz.toNat 0 heap 0

-- The bits of the byte in reverse order.
def generalDataChange (input : UInt8) : UInt8 :=
  let bit (i : Nat) : UInt8 := 1 <<< i.toUInt8
  (List.range 8).foldl
    (fun result i => if input &&& bit i ≠ 0 then result ||| bit (7 - i) else result &&& ~~~bit (7 - i)) 0

example : (generalDataChange 0x01, generalDataChange 0xb4) = (0x80, 0x2d) := by decide

def hdcp2DataDecryption (input : Bytes) : Bytes := input.map generalDataChange

structure KeyWrite where
  name : Bytes
  data : Bytes
deriving DecidableEq

-- What malloc and the key storage answer while one item is handled: a write that
-- cannot open the node is none.
structure ItemEnv where
  tmpBuffer : Bool
  writeBuffer : Bool
  attached : Bool
  selected : Bool
  written : Option Bool
  existKey : Bytes

structure ImgEnv where
  path : Bool
  opened : Bool
  itemReadBuf : Bool
  crcBuf : Bool
  heap : Bytes
  item : Nat → ItemEnv

def writeHdcpKey (env : ItemEnv) (data name : Bytes) : List KeyWrite × Int :=
  if env.attached = false then ([], -1)
  else if env.selected = false then ([], -1)
  else
    match env.written with
    | none => ([], -1)
    | some false => ([⟨name, data⟩], -1)
    | some true =>
        ([⟨name, data⟩], if env.existKey.getD 0 0 = 0x30 ∧ env.existKey.getD 1 0 = 0 then -1 else 0)

-- The keys that were written, and the return value unless the behaviour is undefined.
structure ImgResult where
  writes : List KeyWrite
  result : Option Int
deriving DecidableEq

inductive Delivery
  | undefined
  | failed
  | done (writes : List KeyWrite) (result : Int)

-- The buffer for an item's data has dataSz + 4 bytes in 32-bit arithmetic.
def deliver (env : ItemEnv) (file : Bytes) (item : AmlResItemHead) (name : Bytes) (change : Bytes → Bytes) : Delivery :=
  let data := (file.drop item.dataOffset.toNat).take item.dataSz.toNat
  if (item.dataSz + 4).toNat < data.length then .undefined
  else if data.length ≠ item.dataSz.toNat then .failed
  else
    let written := writeHdcpKey env (change data) name
    .done written.1 written.2

def handleItem (env : ItemEnv) (file : Bytes) (item : AmlResItemHead) : Option Delivery :=
  if named item.name hdcpRxPrivate then
    some (if env.tmpBuffer = false then .failed else if env.writeBuffer = false then .failed
      else deliver env file item hdcpRxPrivate hdcp2DataDecryption)
  else if named item.name hdcpRx then
    some (if env.writeBuffer = false then .failed else deliver env file item hdcpRx id)
  else if named item.name hdcpRxFw then
    some (if env.writeBuffer = false then .failed else deliver env file item hdcp22RxFw id)
  else none

def itemAt (table : Bytes) (num : Nat) : AmlResItemHead := itemHead (table.drop (itemHeadSz * num))

-- An item behind the bytes that were read is memory nobody has written.
def itemLoop (env : ImgEnv) (file table : Bytes) : Nat → Nat → Int → ImgResult
  | 0, _, result => ⟨[], some result⟩
  | left + 1, num, result =>
      if table.length < itemHeadSz * (num + 1) then ⟨[], none⟩
      else
        match handleItem (env.item num) file (itemAt table num) with
        | none => itemLoop env file table left (num + 1) result
        | some .undefined => ⟨[], none⟩
        | some .failed => ⟨[], some (-1)⟩
        | some (.done writes outcome) =>
            if outcome ≠ 0 then ⟨writes, some (-1)⟩
            else
              let later := itemLoop env file table left (num + 1) outcome
              ⟨writes ++ later.writes, later.result⟩

-- The size of the item heads as an int, and as the size_t that fread takes it for.
def itemHeadsSz (imgItemNum : UInt32) : Int := Int.bmod (imgItemNum.toNat * itemHeadSz) (2 ^ 32)

def readItems (file : Bytes) (size : Int) : Bytes :=
  if size < 0 then file.drop imgHeadSz else (file.drop imgHeadSz).take size.toNat

def setImgPath (env : ImgEnv) (file : Bytes) : ImgResult :=
  let head := imgHead file
  let table := readItems file (itemHeadsSz head.imgItemNum)
  if env.path = false then ⟨[], some (-1)⟩
  else if env.opened = false then ⟨[], some (-1)⟩
  else if env.itemReadBuf = false then ⟨[], some (-1)⟩
  else if file.length < imgHeadSz then ⟨[], some (-1)⟩
  else if head.magic ≠ amlResImgV1Magic then ⟨[], some (-1)⟩
  else if head.crc ≠ calcImgCrc env.crcBuf env.heap file 4 (head.imgSz - 4) then ⟨[], some (-1)⟩
  else if itemReadBufSz < imgHeadSz + table.length then ⟨[], none⟩
  else if (table.length : Int) ≠ itemHeadsSz head.imgItemNum then ⟨[], some (-1)⟩
  else itemLoop env file table head.imgItemNum.toNat 0 (-1)

end Droidlogic.Hdcp
