import Mathlib.Algebra.Ring.Int.Defs
import Mathlib.Algebra.Ring.Nat
import Droidlogic.Lib.Crc

set_option autoImplicit false

namespace Droidlogic.Ts

open Droidlogic.Lib

def kPidPmt : Nat := 0x100
def kPidPcr : Nat := 0x1000
def kPidVideo : Nat := 0x1100
def kPidAudio : Nat := 0x1110

def emitPatAndPmt (flags : UInt32) : Bool := flags &&& 1 ≠ 0
def emitPcr (flags : UInt32) : Bool := flags &&& 2 ≠ 0

-- if (++counter == 16) counter = 0;
def stepCounter (counter : Fin 16) : Fin 16 :=
  if h : counter.val + 1 = 16 then 0 else ⟨counter.val + 1, by omega⟩

structure TSPacker where
  mHasAudio : Bool
  mIsPcmAudio : Bool
  mPATContinuityCounter : Fin 16
  mPMTContinuityCounter : Fin 16
  mAudioContinuityCounter : Fin 16
  mVideoContinuityCounter : Fin 16
  mheadFinalize : Bool
  mCSD : List Bytes
  mDescriptors : List Bytes
deriving DecidableEq

-- mIsPcmAudio is not initialised here.
def construct (hasAudio isPcmAudio : Bool) : TSPacker :=
  ⟨hasAudio, isPcmAudio, 0, 0, 0, 0, false, [], []⟩

def start (packer : TSPacker) : TSPacker :=
  if packer.mHasAudio then { packer with mIsPcmAudio := false } else packer

-- threadFunc keeps the first buffer of the video convertor.
def storeCsd (packer : TSPacker) (csd : Bytes) : TSPacker := { packer with mCSD := packer.mCSD ++ [csd] }

def incrementContinuityCounter (packer : TSPacker) (isAudio : Bool) : Fin 16 × TSPacker :=
  if isAudio then
    (packer.mAudioContinuityCounter,
      { packer with mAudioContinuityCounter := stepCounter packer.mAudioContinuityCounter })
  else
    (packer.mVideoContinuityCounter,
      { packer with mVideoContinuityCounter := stepCounter packer.mVideoContinuityCounter })

def mCrcTable (index : UInt8) : UInt32 := Crc.msbEntry 0x04C11DB7 index

def crc32 (bytes : Bytes) : UInt32 :=
  bytes.foldl (fun crc p => (crc <<< 8) ^^^ mCrcTable ((crc >>> 24) ^^^ p.toUInt32).toUInt8) 0xFFFFFFFF

def CsdOk (csd : Bytes) : Prop := csd.take 4 = [0, 0, 0, 1] ∧ 7 ≤ csd.length

instance (csd : Bytes) : Decidable (CsdOk csd) := inferInstanceAs (Decidable (_ ∧ _))

def avcDescriptor (codec : Bytes) : Bytes := [40, 4] ++ codec ++ [0x3f]
def hrdDescriptor : Bytes := [42, 2, 0x7e, 0x1f]
def lpcmDescriptor : Bytes := [0x83, 2, .ofNat (2 <<< 5 ||| 3 <<< 1), .ofNat (1 <<< 5 ||| 0xf)]

-- profile_idc, constraint_set and level_idc; none is a CHECK that aborts.
def codecBytes (mCSD : List Bytes) : Option Bytes :=
  match mCSD with
  | [] => some [100, 12, 32]
  | sps :: _ => if CsdOk sps then some ((sps.drop 4).take 3) else none

def headFinalize (packer : TSPacker) : Option TSPacker :=
  if packer.mheadFinalize then some packer
  else
    match codecBytes packer.mCSD with
    | none => none
    | some codec =>
        let audio := if packer.mHasAudio && packer.mIsPcmAudio then [lpcmDescriptor] else []
        some { packer with
          mDescriptors := packer.mDescriptors ++ [avcDescriptor codec, hrdDescriptor] ++ audio
          mheadFinalize := true }

-- memset(ptr, 0xff, sizeLeft) behind the last section byte.
def stuffed (bytes : Bytes) : Option Bytes :=
  if bytes.length ≤ 188 then some (bytes ++ List.replicate (188 - bytes.length) 0xff) else none

def patSection : Bytes :=
  [0x00, 0xb0, 0x0d, 0x00, 0x00, 0xc3, 0x00, 0x00, 0x00, 0x01, .ofNat (0xe0 ||| kPidPmt >>> 8),
    .ofNat (kPidPmt &&& 0xff)]

def patPacket (counter : Fin 16) : Option Bytes :=
  stuffed ([0x47, 0x40, 0x00, .ofNat (0x10 ||| counter.val), 0x00] ++ patSection ++ be32 (crc32 patSection))

def esInfo (streamType : UInt8) (pid esInfoLength : Nat) : Bytes :=
  [streamType, .ofNat (0xe0 ||| pid >>> 8), .ofNat (pid &&& 0xff), .ofNat (0xf0 ||| esInfoLength >>> 8),
    .ofNat (esInfoLength &&& 0xff)]

def videoInfo (packer : TSPacker) : Option Bytes :=
  match packer.mDescriptors[0]?, packer.mDescriptors[1]? with
  | some avc, some hrd => some (esInfo 0x1b kPidVideo 10 ++ avc ++ hrd)
  | _, _ => none

-- The length byte promises a descriptor whether or not one is copied.
def audioInfo (packer : TSPacker) : Option Bytes :=
  if packer.mHasAudio then
    if packer.mIsPcmAudio then
      (packer.mDescriptors[2]?).map fun lpcm => esInfo 0x83 kPidAudio 4 ++ lpcm
    else some (esInfo 0x0f kPidAudio 4)
  else some []

def pmtBody (video audio : Bytes) : Bytes :=
  [0x00, 0x01, 0xc3, 0x00, 0x00, .ofNat (0xe0 ||| kPidPcr >>> 8), .ofNat (kPidPcr &&& 0xff), 0xf0, 0x00] ++
    video ++ audio

-- section_length is filled in from the pointer difference, then the checksum.
def pmtHead (body : Bytes) : Bytes :=
  let sectionLength := body.length + 4
  [0x02, .ofNat (0xb0 ||| sectionLength >>> 8), .ofNat (sectionLength &&& 0xff)] ++ body

def pmtSection (packer : TSPacker) : Option Bytes :=
  match videoInfo packer, audioInfo packer with
  | some video, some audio =>
      let head := pmtHead (pmtBody video audio)
      some (head ++ be32 (crc32 head))
  | _, _ => none

def pmtPacket (packer : TSPacker) : Option Bytes :=
  match pmtSection packer with
  | none => none
  | some section_ =>
      stuffed ([0x47, .ofNat (0x40 ||| kPidPmt >>> 8), .ofNat (kPidPmt &&& 0xff),
        .ofNat (0x10 ||| packer.mPMTContinuityCounter.val), 0x00] ++ section_)

-- Both counters step before the packets are numbered.
def counted (packer : TSPacker) : TSPacker :=
  { packer with
    mPATContinuityCounter := stepCounter packer.mPATContinuityCounter
    mPMTContinuityCounter := stepCounter packer.mPMTContinuityCounter }

def emitTables (packer : TSPacker) : Option (List Bytes × TSPacker) :=
  match headFinalize (counted packer) with
  | none => none
  | some ready =>
      match patPacket ready.mPATContinuityCounter with
      | none => none
      | some pat =>
          match pmtPacket ready with
          | none => none
          | some pmt => some ([pat, pmt], ready)

-- Signed 64-bit products wrap.
def pcrPacket (nowUs : Int64) : Bytes :=
  let pcr := (nowUs * 27).toUInt64.toNat
  let base := pcr / 300
  let ext := pcr % 300
  let head : Bytes :=
    [0x47, .ofNat (0x40 ||| kPidPcr >>> 8), .ofNat (kPidPcr &&& 0xff), 0x20, 0xb7, 0x10,
      .ofNat (base >>> 25 &&& 0xff), .ofNat (base >>> 17 &&& 0xff), .ofNat (base >>> 9 &&& 0xff),
      .ofNat ((base &&& 1) <<< 7 ||| 0x7e ||| (ext >>> 8 &&& 1)), .ofNat (ext &&& 0xff)]
  head ++ List.replicate (188 - head.length) 0xff

-- What packetize is called with; nowUs is its reading of the clock.
structure Args where
  isAudio : Bool
  buffer : Bytes
  flags : UInt32
  privateData : Bytes
  numStuffingBytes : Nat
  timeUs : Int64
  nowUs : Int64
  -- buffer_size is an int32_t
  buffer_size : buffer.length < 2 ^ 31

def privateSize (args : Args) : Nat := if args.privateData = [] then 0 else args.privateData.length + 1

def streamPid (isAudio : Bool) : Nat := if isAudio then kPidAudio else kPidVideo

def streamId (packer : TSPacker) (isAudio : Bool) : UInt8 :=
  if isAudio then if packer.mIsPcmAudio then 0xbd else 0xc0 else 0xe0

-- buffer_size + 8 is an int, the rest of the sum a size_t.
def pesPacketLength (args : Args) : Nat :=
  let sum := ((Int.bmod (args.buffer.length + 8) (2 ^ 32) + args.numStuffingBytes + privateSize args) % 2 ^ 64).toNat
  if 65536 ≤ sum then 0 else sum

def pts (timeUs : Int64) : Nat := (timeUs * 9 / 100).toUInt64.toNat

def ptsBytes (pts : Nat) : Bytes :=
  [.ofNat (0x20 ||| (pts >>> 30 &&& 7) <<< 1 ||| 1), .ofNat (pts >>> 22 &&& 0xff),
    .ofNat ((pts >>> 15 &&& 0x7f) <<< 1 ||| 1), .ofNat (pts >>> 7 &&& 0xff), .ofNat ((pts &&& 0x7f) <<< 1 ||| 1)]

def pesHeader (packer : TSPacker) (args : Args) : Bytes :=
  [0x00, 0x00, 0x01, streamId packer args.isAudio, .ofNat (pesPacketLength args >>> 8),
    .ofNat (pesPacketLength args &&& 0xff), 0x84, if args.privateData = [] then 0x80 else 0x81,
    .ofNat (5 + args.numStuffingBytes + privateSize args)] ++
  ptsBytes (pts args.timeUs) ++
  (if args.privateData = [] then [] else 0x8e :: args.privateData) ++
  List.replicate args.numStuffingBytes 0xff

def adaptationField (numPaddingBytes : Nat) : Bytes :=
  if 0 < numPaddingBytes then
    .ofNat (numPaddingBytes - 1) ::
      if 2 ≤ numPaddingBytes then 0x00 :: List.replicate (numPaddingBytes - 2) 0xff else []
  else []

-- CHECK_EQ(ptr, packetDataStart + 188) at the end of every stream packet.
def streamPacket (unitStart pid : Nat) (counter : Fin 16) (numPaddingBytes : Nat) (content : Bytes) : Option Bytes :=
  let packet :=
    [0x47, .ofNat (unitStart ||| pid >>> 8), .ofNat (pid &&& 0xff),
      .ofNat ((if 0 < numPaddingBytes then 0x30 else 0x10) ||| counter.val)] ++
    adaptationField numPaddingBytes ++ content
  if packet.length = 188 then some packet else none

-- while (offset < buffer_size); rest is what lies behind offset.
def payloadLoop (isAudio : Bool) : Nat → Bytes → TSPacker → Option (List Bytes × TSPacker)
  | 0, _, packer => some ([], packer)
  | fuel + 1, rest, packer =>
      if rest = [] then some ([], packer)
      else
        let copy := min rest.length 184
        let (counter, next) := incrementContinuityCounter packer isAudio
        match streamPacket 0x00 (streamPid isAudio) counter (184 - copy) (rest.take copy) with
        | none => none
        | some packet =>
            match payloadLoop isAudio fuel (rest.drop copy) next with
            | none => none
            | some (packets, final) => some (packet :: packets, final)

def emitStream (packer : TSPacker) (args : Args) : Option (List Bytes × TSPacker) :=
  let available := 184 - 14 - args.numStuffingBytes - privateSize args
  let copy := min args.buffer.length available
  let (counter, next) := incrementContinuityCounter packer args.isAudio
  match streamPacket 0x40 (streamPid args.isAudio) counter (available - copy)
      (pesHeader packer args ++ args.buffer.take copy) with
  | none => none
  | some first =>
      match payloadLoop args.isAudio (args.buffer.length - copy) (args.buffer.drop copy) next with
      | none => none
      | some (packets, final) => some (first :: packets, final)

-- The packets counted before anything is written; alignPayload is 0.
def numTSPackets (args : Args) : Nat :=
  let available := 184 - (14 + args.numStuffingBytes + privateSize args)
  let remaining := args.buffer.length - min args.buffer.length available
  let full := remaining / 184
  let left := remaining - full * 184
  1 + full +
    (if full = 0 ∧ 0 < left then 1 else if 0 < full ∧ 184 < left + 184 then 1 else 0) +
    (if emitPatAndPmt args.flags then 2 else 0) + (if emitPcr args.flags then 1 else 0)

def tablesFor (packer : TSPacker) (args : Args) : Option (List Bytes × TSPacker) :=
  if emitPatAndPmt args.flags then emitTables packer else some ([], packer)

def pcrFor (args : Args) : List Bytes := if emitPcr args.flags then [pcrPacket args.nowUs] else []

-- The packets in writing order. Every CHECK that fails aborts.
def packetizePackets (packer : TSPacker) (args : Args) : Option (List Bytes × TSPacker) :=
  if 14 + args.numStuffingBytes + privateSize args ≤ 184 then
    match tablesFor packer args with
    | none => none
    | some (tables, ready) =>
        match emitStream ready args with
        | none => none
        | some (stream, final) => some (tables ++ pcrFor args ++ stream, final)
  else none

-- CHECK(packetDataStart == buffer->data() + buffer->capacity()) at the end.
def packetize (packer : TSPacker) (args : Args) : Option (Bytes × TSPacker) :=
  match packetizePackets packer args with
  | none => none
  | some (packets, final) =>
      if packets.length = numTSPackets args then some (packets.flatten, final) else none

end Droidlogic.Ts
