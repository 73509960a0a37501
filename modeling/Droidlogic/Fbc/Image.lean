import Droidlogic.Fbc.Protocol

set_option autoImplicit false

namespace Droidlogic.Fbc

open Droidlogic.Lib

def ERR_SERIAL_CONNECT : Int := -1
def ERR_OPEN_BIN_FILE : Int := -2
def ERR_BIN_FILE_SIZE : Int := -3
def ERR_READ_BIN_FILE : Int := -4
def ERR_NOT_SUPPORT_UPGRADE_MDOE : Int := -5
def ERR_NOT_CORRECT_UPGRADE_BLKSIZE : Int := -6
def ERR_DATA_CRC_ERROR : Int := -7

def FIRST_BOOT_INFO_OFFSET : Nat := 0x41000
def SECTION_0_INFO_OFFSET : Nat := 0x42000
def SECTION_INFO_SIZE : Nat := 0x1000
def PARTITION_INFO_SIZE : Nat := 0x200

structure UpgradeFile where
  mBinFileSize : Nat
  mBinFileBuf : Nat → UInt8

-- none is a read outside the file.
def UpgradeFile.slice (file : UpgradeFile) (start count : Int) : Option Bytes :=
  if 0 ≤ start ∧ 0 ≤ count ∧ start + count ≤ file.mBinFileSize then
    some ((List.range count.toNat).map fun i => file.mBinFileBuf (start.toNat + i))
  else none

def UpgradeFile.word (file : UpgradeFile) (offset : Nat) : UInt32 :=
  (file.mBinFileBuf offset).toUInt32 ||| (file.mBinFileBuf (offset + 1)).toUInt32 <<< 8 |||
    (file.mBinFileBuf (offset + 2)).toUInt32 <<< 16 ||| (file.mBinFileBuf (offset + 3)).toUInt32 <<< 24

inductive Partition
  | firstBoot
  | secondBoot
  | suspend
  | update
  | main
  | pq
  | user
deriving DecidableEq

def Partition.index : Partition → Nat
  | .firstBoot => 0
  | .secondBoot => 1
  | .suspend => 2
  | .update => 3
  | .main => 4
  | .pq => 5
  | .user => 6

-- The fields of partition_info_t that are read, at their offsets in the struct.
structure PartitionInfo where
  code_offset : UInt32
  code_size : UInt32
  data_offset : UInt32
  data_size : UInt32
  readonly_size : UInt32
  spi_code_size : UInt32
  audio_param_size : UInt32
  sys_param_size : UInt32
  crc : UInt32

def getPartitionInfoUpgFile (file : UpgradeFile) (partition : Partition) : PartitionInfo :=
  let offset :=
    if partition = .firstBoot then FIRST_BOOT_INFO_OFFSET
    else SECTION_0_INFO_OFFSET + PARTITION_INFO_SIZE * (partition.index - 1)
  ⟨file.word offset, file.word (offset + 4), file.word (offset + 8), file.word (offset + 12), file.word (offset + 28),
    file.word (offset + 292), file.word (offset + 300), file.word (offset + 308), file.word (offset + 312)⟩

structure SectionInfo where
  start : Int
  length : Int
deriving DecidableEq

-- The sums are unsigned, start and length are int.
def parseUpgradeInfo (file : UpgradeFile) (partition : Partition) : SectionInfo :=
  let info := getPartitionInfoUpgFile file partition
  match partition with
  | .main =>
      ⟨info.code_offset.toInt32.toInt,
        (info.code_size + info.data_size + info.spi_code_size + info.readonly_size + info.audio_param_size +
          info.sys_param_size).toInt32.toInt⟩
  | .pq => ⟨info.data_offset.toInt32.toInt, info.data_size.toInt32.toInt⟩
  | .user => ⟨info.data_offset.toInt32.toInt, info.data_size.toInt32.toInt⟩
  | _ => ⟨info.code_offset.toInt32.toInt, (info.code_size + info.data_size).toInt32.toInt⟩

def initBlocksInfo (file : UpgradeFile) : List SectionInfo :=
  ⟨SECTION_0_INFO_OFFSET, SECTION_INFO_SIZE⟩ ::
    [Partition.secondBoot, .suspend, .update, .main, .pq, .user].map (parseUpgradeInfo file)

def checkRange (file : UpgradeFile) (offset size crc : UInt32) : Option (UInt32 × Bool) :=
  if offset ≠ 0 ∧ size ≠ 0 then
    (file.slice offset.toNat size.toNat).map fun bytes => (calcrc32 crc bytes, true)
  else some (crc, false)

def check_partition (file : UpgradeFile) (info : PartitionInfo) : Option Bool :=
  match checkRange file info.code_offset info.code_size 0 with
  | none => none
  | some (codeCrc, code) =>
      match checkRange file info.data_offset info.data_size codeCrc with
      | none => none
      | some (crc, data) => some ((code || data) && crc = info.crc)

structure FileAccess where
  opened : Bool
  st_size : Nat
  rw_size : Int
  bytes : Nat → UInt8

-- The ret_code of a failed step, or the file and its sections.
def loadUpgradeFile (access : FileAccess) : Option (Except Int (UpgradeFile × List SectionInfo)) :=
  if access.opened = false then some (.error ERR_OPEN_BIN_FILE)
  else if access.st_size ≠ 0x200000 ∧ access.st_size ≠ 0x400000 then some (.error ERR_BIN_FILE_SIZE)
  else if access.rw_size ≠ access.st_size ∨ access.rw_size ≤ 0 then some (.error ERR_READ_BIN_FILE)
  else
    let file : UpgradeFile := ⟨access.st_size, access.bytes⟩
    match check_partition file (getPartitionInfoUpgFile file .firstBoot) with
    | none => none
    | some true => some (.ok (file, initBlocksInfo file))
    | some false => some (.error ERR_DATA_CRC_ERROR)

structure Setup where
  observer : Bool
  mUpgradeBlockSize : Int
  mUpgradeMode : Int
  access : FileAccess
  upgradeCmdSent : Bool
  mNewBaudRate : UInt32
  speedAdjusted : Bool

-- threadLoop up to prepare_success.
def prepare (setup : Setup) : Option (Except Int (UpgradeFile × List SectionInfo)) :=
  if setup.observer = false then some (.error 0)
  else if setup.mUpgradeMode < 0 then some (.error ERR_NOT_SUPPORT_UPGRADE_MDOE)
  else if setup.mUpgradeBlockSize ≠ 0x10000 then some (.error ERR_NOT_CORRECT_UPGRADE_BLKSIZE)
  else
    match loadUpgradeFile setup.access with
    | none => none
    | some (.error code) => some (.error code)
    | some (.ok loaded) =>
        if setup.upgradeCmdSent = false then some (.error ERR_SERIAL_CONNECT)
        else if setup.mNewBaudRate ≠ 0 ∧ setup.speedAdjusted = false then some (.error ERR_SERIAL_CONNECT)
        else some (.ok loaded)

theorem loaded_file (access : FileAccess) (file : UpgradeFile) (sections : List SectionInfo)
    (loaded : loadUpgradeFile access = some (.ok (file, sections))) :
    file = ⟨access.st_size, access.bytes⟩ ∧ sections = initBlocksInfo file := by
  by_cases opened : access.opened = false
  · simp [loadUpgradeFile, opened] at loaded
  by_cases size : access.st_size ≠ 0x200000 ∧ access.st_size ≠ 0x400000
  · rw [loadUpgradeFile, if_neg opened, if_pos size] at loaded
    simp at loaded
  by_cases failed : access.rw_size ≠ access.st_size ∨ access.rw_size ≤ 0
  · rw [loadUpgradeFile, if_neg opened, if_neg size, if_pos failed] at loaded
    simp at loaded
  rw [loadUpgradeFile, if_neg opened, if_neg size, if_neg failed] at loaded
  cases checked : check_partition ⟨access.st_size, access.bytes⟩
      (getPartitionInfoUpgFile ⟨access.st_size, access.bytes⟩ .firstBoot) with
  | none => simp [checked] at loaded
  | some valid =>
      cases valid with
      | false => simp [checked] at loaded
      | true =>
          simp only [checked, Option.some.injEq, Except.ok.injEq, Prod.mk.injEq] at loaded
          rw [← loaded.1, ← loaded.2]
          exact ⟨rfl, rfl⟩

theorem prepared (setup : Setup) (file : UpgradeFile) (sections : List SectionInfo)
    (success : prepare setup = some (.ok (file, sections))) :
    setup.mUpgradeBlockSize = 0x10000 ∧ loadUpgradeFile setup.access = some (.ok (file, sections)) := by
  by_cases observer : setup.observer = false
  · simp [prepare, observer] at success
  by_cases mode : setup.mUpgradeMode < 0
  · rw [prepare, if_neg observer, if_pos mode] at success
    simp at success
  by_cases size : setup.mUpgradeBlockSize ≠ 0x10000
  · rw [prepare, if_neg observer, if_neg mode, if_pos size] at success
    simp at success
  rw [prepare, if_neg observer, if_neg mode, if_neg size] at success
  refine ⟨not_not.mp size, ?_⟩
  cases loaded : loadUpgradeFile setup.access with
  | none => simp [loaded] at success
  | some result =>
      cases result with
      | error code => simp [loaded] at success
      | ok pair =>
          simp only [loaded] at success
          split at success
          · simp at success
          split at success
          · simp at success
          · exact congrArg _ (Option.some.inj success)

theorem section_length_least (file : UpgradeFile) : ∀ info ∈ initBlocksInfo file, -2 ^ 31 ≤ info.length := by
  have least (partition : Partition) : -2 ^ 31 ≤ (parseUpgradeInfo file partition).length := by
    cases partition <;> exact Int32.le_toInt _
  intro info member
  rcases List.mem_cons.mp member with rfl | later
  · simp [SECTION_INFO_SIZE]
  · obtain ⟨partition, _, rfl⟩ := List.mem_map.mp later
    exact least partition

end Droidlogic.Fbc
